import Guiying.Desktop.ResultReads
import Guiying.Export.Cancellation

/-!
# Export grants and running exports

A selection is pending while the file dialog is open, then a grant, then a
running export. Each of them carries the binding to the result it exports; a
running export shares its cancellation with the worker that writes it.
-/

namespace Guiying.Desktop

open Guiying.Export
open Guiying.Foundation.MachineInt

inductive ExportFormat where
  | json
  | csv
  deriving DecidableEq

inductive HistoryExportScope where
  | summary
  | completeEvidence
  deriving DecidableEq

inductive HistoryExportProjection where
  | redacted
  | display
  deriving DecidableEq

/-- What the window has chosen of an export. -/
structure ExportOptions where
  format : ExportFormat
  scope : HistoryExportScope
  projection : HistoryExportProjection
  deriving DecidableEq

structure PendingExportSelection where
  sequence : Nat
  binding : ResultExportBinding
  options : ExportOptions
  deriving DecidableEq

structure HistoryExportGrant where
  token : Token
  binding : ResultExportBinding
  options : ExportOptions
  generation : Nat
  cancellation : ExportCancellation
  expiresAt : Instant
  deriving DecidableEq

/-- A running export and, by its cancellation, the worker that writes it. -/
structure RunningHistoryExport where
  token : Token
  ownerWindowLabel : Window
  ownerEpoch : Nat
  resultReadToken : Token
  resultGeneration : Nat
  generation : Nat
  cancellation : ExportCancellation
  deriving DecidableEq

structure HistoryExportRegistry where
  pendingSelections : List PendingExportSelection
  grants : List HistoryExportGrant
  running : List RunningHistoryExport
  nextSelectionSequence : Nat
  nextGeneration : Nat

namespace AppError

def invalidHistoryExportToken : AppError :=
  ⟨"INVALID_HISTORY_EXPORT_TOKEN",
    "历史导出授权不存在、已撤销、已使用或格式无效；请重新选择导出位置。", none⟩

def historyExportOwnerMismatch : AppError :=
  ⟨"HISTORY_EXPORT_TOKEN_OWNER_MISMATCH", "该历史导出授权不属于当前窗口，已拒绝使用。", none⟩

def historyExportExpired : AppError :=
  ⟨"HISTORY_EXPORT_TOKEN_EXPIRED", "历史导出授权已过期，请重新选择导出位置。", none⟩

def historyExportRegistryFull : AppError :=
  ⟨"HISTORY_EXPORT_REGISTRY_FULL", "历史导出已达到安全并发上限；请等待现有导出结束。", none⟩

def historyExportSelection (message : String) : AppError :=
  ⟨"HISTORY_EXPORT_SELECTION_FAILED", message, none⟩

end AppError

def maxHistoryExports : Nat := 4

def maxHistoryExportsPerOwner : Nat := 1

def historyExportTokenTtl : Nat := 5 * 60 * 1000

/-- The worker's `commit_link`, when its operation links the file: only an export that is open and
not cancelled commits. -/
def commitLink (cancellation : ExportCancellation) : ExportCancellation :=
  if cancellation.commitState = .openToCancel ∧ cancellation.cancelled = false then
    { cancellation with commitState := .committed }
  else cancellation

namespace HistoryExportRegistry

def new : HistoryExportRegistry := ⟨[], [], [], 0, 0⟩

def grant (registry : HistoryExportRegistry) (token : Token) : Option HistoryExportGrant :=
  registry.grants.find? fun grant => grant.token = token

def dropGrant (registry : HistoryExportRegistry) (token : Token) : HistoryExportRegistry :=
  { registry with grants := registry.grants.filter fun grant => grant.token ≠ token }

def total (registry : HistoryExportRegistry) : Nat :=
  registry.pendingSelections.length + registry.grants.length + registry.running.length

def ofOwner (registry : HistoryExportRegistry) (owner : Window) : Nat :=
  (registry.pendingSelections.filter fun pending =>
      pending.binding.ownerWindowLabel = owner).length +
    (registry.grants.filter fun grant => grant.binding.ownerWindowLabel = owner).length +
    (registry.running.filter fun running => running.ownerWindowLabel = owner).length

/-- The end of `begin_history_export_selection`, after its snapshot of the binding. -/
def beginSelection (registry : HistoryExportRegistry) (now : Instant)
    (binding : ResultExportBinding) (options : ExportOptions) :
    HistoryExportRegistry × Except AppError PendingExportSelection :=
  let registry :=
    { registry with grants := registry.grants.filter fun grant => now < grant.expiresAt }
  if registry.total ≥ maxHistoryExports ∨
      registry.ofOwner binding.ownerWindowLabel ≥ maxHistoryExportsPerOwner then
    (registry, .error .historyExportRegistryFull)
  else
    match checkedAdd u64Bound registry.nextSelectionSequence 1 with
    | none =>
        (registry, .error (.historyExportSelection "历史导出选择序列号已耗尽；请重启应用。"))
    | some sequence =>
        let permit : PendingExportSelection := ⟨sequence, binding, options⟩
        ({ registry with
            nextSelectionSequence := sequence
            pendingSelections := permit :: registry.pendingSelections }, .ok permit)

/-- A permit that is dropped without a grant. -/
def dropPending (registry : HistoryExportRegistry) (sequence : Nat) : HistoryExportRegistry :=
  { registry with
    pendingSelections := registry.pendingSelections.filter fun pending =>
      pending.sequence ≠ sequence }

/-- The end of `finish_history_export_selection`, after its checks. -/
def finishSelection (registry : HistoryExportRegistry) (now : Instant)
    (permit : PendingExportSelection) (drawn : List Token) :
    HistoryExportRegistry × Except AppError Token :=
  if permit ∉ registry.pendingSelections then
    (registry, .error (.historyExportSelection "窗口已关闭或导出选择已撤销。"))
  else
    match checkedAdd u64Bound registry.nextGeneration 1 with
    | none => (registry, .error (.historyExportSelection "历史导出授权代际编号已耗尽；请重启应用。"))
    | some generation =>
        let used := fun token => (registry.grant token).isSome ||
          registry.running.any fun running => running.token = token
        match freshToken used drawn with
        | none =>
            (registry, .error (.historyExportSelection "历史导出授权令牌发生重复，已安全终止签发。"))
        | some token =>
            ({ registry with
                pendingSelections := (registry.dropPending permit.sequence).pendingSelections
                nextGeneration := generation
                grants :=
                  { token, binding := permit.binding, options := permit.options, generation
                    cancellation := .new, expiresAt := now + historyExportTokenTtl } ::
                    registry.grants }, .ok token)

/-- `begin_history_export` up to its result read: the grant of the token. -/
def findGrant (registry : HistoryExportRegistry) (now : Instant) (owner : Window)
    (token : Token) : HistoryExportRegistry × Except AppError HistoryExportGrant :=
  match registry.grant token with
  | none => (registry, .error .invalidHistoryExportToken)
  | some grant =>
      if grant.binding.ownerWindowLabel ≠ owner then
        (registry, .error .historyExportOwnerMismatch)
      else if grant.expiresAt ≤ now then
        (registry.dropGrant token, .error .historyExportExpired)
      else (registry, .ok grant)

/-- The end of `begin_history_export`: the grant, when it is still there, becomes a running
export of the owner. -/
def runGrant (registry : HistoryExportRegistry) (now : Instant) (owner : Window)
    (found : HistoryExportGrant) : HistoryExportRegistry × Except AppError Unit :=
  match registry.grant found.token with
  | none => (registry, .error .invalidHistoryExportToken)
  | some grant =>
      if grant.generation ≠ found.generation ∨ grant.cancellation.cancelled ∨
          grant.expiresAt ≤ now ∨ grant.binding ≠ found.binding then
        (registry, .error .invalidHistoryExportToken)
      else
        ({ registry with
            grants := (registry.dropGrant found.token).grants
            running :=
              { token := found.token, ownerWindowLabel := owner
                ownerEpoch := found.binding.ownerEpoch
                resultReadToken := found.binding.resultReadToken
                resultGeneration := found.binding.resultGeneration
                generation := found.generation, cancellation := grant.cancellation } ::
                registry.running.filter fun running => running.token ≠ found.token }, .ok ())

/-- The worker of a token commits its link. -/
def commit (registry : HistoryExportRegistry) (token : Token) : HistoryExportRegistry :=
  { registry with
    running := registry.running.map fun running =>
      if running.token = token then
        { running with cancellation := commitLink running.cancellation }
      else running }

/-- The lease of a run is dropped. -/
def dropRun (registry : HistoryExportRegistry) (token : Token) (generation : Nat) :
    HistoryExportRegistry :=
  { registry with
    running := registry.running.filter fun running =>
      ¬ (running.token = token ∧ running.generation = generation) }

def cancelRunning (running : RunningHistoryExport) : RunningHistoryExport :=
  { running with cancellation := running.cancellation.cancel.2 }

/-- `cancel_history_export` -/
def cancelExport (registry : HistoryExportRegistry) (owners : ResultOwners) (owner : Window)
    (token : Token) : HistoryExportRegistry × Except AppError Bool :=
  match registry.grant token with
  | some grant =>
      if grant.binding.ownerWindowLabel ≠ owner then
        (registry, .error .historyExportOwnerMismatch)
      else (registry.dropGrant token, .ok grant.cancellation.cancel.1)
  | none =>
      match registry.running.find? fun running => running.token = token with
      | none => (registry, .ok false)
      | some running =>
          if running.ownerWindowLabel ≠ owner then
            (registry, .error .historyExportOwnerMismatch)
          else if !owners.live owner running.ownerEpoch ∨ running.resultGeneration = 0 then
            (registry, .error .invalidHistoryExportToken)
          else
            ({ registry with
                running := registry.running.map fun other =>
                  if other.token = token then cancelRunning other else other },
              .ok running.cancellation.cancel.1)

/-- `revoke_history_exports_for_owner` -/
def revokeForOwner (registry : HistoryExportRegistry) (owner : Window) : HistoryExportRegistry :=
  { registry with
    pendingSelections := registry.pendingSelections.filter fun pending =>
      pending.binding.ownerWindowLabel ≠ owner
    grants := registry.grants.filter fun grant => grant.binding.ownerWindowLabel ≠ owner
    running := registry.running.map fun running =>
      if running.ownerWindowLabel = owner then cancelRunning running else running }

/-- `revoke_history_exports_for_result_token` -/
def revokeForResultToken (registry : HistoryExportRegistry) (token : Token) :
    HistoryExportRegistry :=
  { registry with
    pendingSelections := registry.pendingSelections.filter fun pending =>
      pending.binding.resultReadToken ≠ token
    grants := registry.grants.filter fun grant => grant.binding.resultReadToken ≠ token
    running := registry.running.map fun running =>
      if running.resultReadToken = token then cancelRunning running else running }

end HistoryExportRegistry

end Guiying.Desktop
