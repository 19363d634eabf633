import Guiying.Desktop.ResultReads

/-!
# Scan roots, quarantine plans and restore roots

The other one-shot authorities of a window: a directory it may scan, a
quarantine plan it may execute and a directory it may restore to.
-/

namespace Guiying.Desktop

open Guiying.Foundation.MachineInt

namespace AppError

def rootSelection (message : String) : AppError := ⟨"SCAN_ROOT_SELECTION_FAILED", message, none⟩

def rootTokenUnavailable (message : String) : AppError :=
  ⟨"SCAN_ROOT_TOKEN_UNAVAILABLE", message, none⟩

def rootTokenRegistryFull : AppError :=
  ⟨"SCAN_ROOT_TOKEN_REGISTRY_FULL",
    "待使用的目录授权已达到安全上限；请先使用现有授权或稍后重试。", none⟩

def invalidRootToken (message : String) : AppError := ⟨"INVALID_SCAN_ROOT_TOKEN", message, none⟩

def rootTokenOwnerMismatch : AppError :=
  ⟨"SCAN_ROOT_TOKEN_OWNER_MISMATCH", "该目录授权不属于当前窗口，已拒绝使用。", none⟩

def rootTokenExpired : AppError :=
  ⟨"SCAN_ROOT_TOKEN_EXPIRED", "目录授权已过期，请重新选择目录。", none⟩

def quarantine (code message : String) : AppError := ⟨code, message, none⟩

end AppError

/-! ## Scan roots -/

structure ScanRootGrant where
  token : Token
  ownerWindowLabel : Window
  root : String
  expiresAt : Instant
  deriving DecidableEq

structure ScanRootTokenRegistry where
  grants : List ScanRootGrant
  pendingSelections : List (Window × Nat)
  nextSelectionSequence : Nat

def maxPendingScanRootTokens : Nat := 16

def scanRootTokenTtl : Nat := 60 * 1000

namespace ScanRootTokenRegistry

def new : ScanRootTokenRegistry := ⟨[], [], 0⟩

def pruneExpired (registry : ScanRootTokenRegistry) (now : Instant) : ScanRootTokenRegistry :=
  { registry with grants := registry.grants.filter fun grant => now < grant.expiresAt }

def dropSelection (registry : ScanRootTokenRegistry) (owner : Window) : ScanRootTokenRegistry :=
  { registry with
    pendingSelections := registry.pendingSelections.filter fun pending => pending.1 ≠ owner }

/-- `begin_scan_root_selection` -/
def beginSelection (registry : ScanRootTokenRegistry) (now : Instant) (owner : Window) :
    ScanRootTokenRegistry × Except AppError Nat :=
  if owner = "" then (registry, .error (.rootSelection "窗口身份为空，不能打开目录选择器。"))
  else
    let registry := registry.pruneExpired now
    if registry.pendingSelections.any fun pending => pending.1 = owner then
      (registry, .error (.rootSelection "当前窗口已有一个目录选择器等待处理。"))
    else if registry.grants.length + registry.pendingSelections.length ≥
        maxPendingScanRootTokens then
      (registry, .error .rootTokenRegistryFull)
    else
      match checkedAdd u64Bound registry.nextSelectionSequence 1 with
      | none => (registry, .error (.rootSelection "目录选择会话编号已耗尽。"))
      | some sequence =>
          ({ registry with
              nextSelectionSequence := sequence
              pendingSelections := (owner, sequence) :: registry.pendingSelections }, .ok sequence)

/-- `finish_scan_root_selection`: nothing when the dialog was dismissed. -/
def finishSelection (registry : ScanRootTokenRegistry) (now : Instant) (owner : Window)
    (sequence : Nat) (selected : Option String) (drawn : List Token) :
    ScanRootTokenRegistry × Except AppError (Option Token) :=
  if (owner, sequence) ∉ registry.pendingSelections then
    (registry, .error (.rootSelection "目录选择会话已被窗口关闭或后续选择替换。"))
  else
    let registry := registry.dropSelection owner
    match selected with
    | none => (registry, .ok none)
    | some root =>
        let registry := registry.pruneExpired now
        if registry.grants.length ≥ maxPendingScanRootTokens then
          (registry, .error .rootTokenRegistryFull)
        else
          let used := fun token => registry.grants.any fun grant => grant.token = token
          match freshToken used drawn with
          | none =>
              (registry, .error (.rootTokenUnavailable "目录授权令牌发生重复，已安全终止签发。"))
          | some token =>
              ({ registry with
                  grants := ⟨token, owner, root, now + scanRootTokenTtl⟩ :: registry.grants },
                .ok (some token))

/-- `consume_scan_root_at` -/
def consume (registry : ScanRootTokenRegistry) (now : Instant) (owner : Window)
    (token : Token) : ScanRootTokenRegistry × Except AppError String :=
  let dropped :=
    { registry with grants := registry.grants.filter fun grant => grant.token ≠ token }
  match registry.grants.find? fun grant => grant.token = token with
  | none => (registry, .error (.invalidRootToken "目录授权不存在或已经使用。"))
  | some grant =>
      if grant.ownerWindowLabel ≠ owner then (registry, .error .rootTokenOwnerMismatch)
      else if grant.expiresAt ≤ now then (dropped, .error .rootTokenExpired)
      else (dropped, .ok grant.root)

/-- `clear_scan_roots_for_owner` -/
def clearForOwner (registry : ScanRootTokenRegistry) (owner : Window) : ScanRootTokenRegistry :=
  { registry.dropSelection owner with
    grants := registry.grants.filter fun grant => grant.ownerWindowLabel ≠ owner }

end ScanRootTokenRegistry

/-! ## Quarantine plans and restore roots -/

structure QuarantinePlan where
  token : Token
  ownerWindowLabel : Window
  resultReadToken : Token
  operationId : OperationId
  expiresAt : Instant
  deriving DecidableEq

structure RestoreRootGrant where
  token : Token
  ownerWindowLabel : Window
  root : String
  expiresAt : Instant
  deriving DecidableEq

structure QuarantineRegistry where
  plans : List QuarantinePlan
  restoreRoots : List RestoreRootGrant
  owners : ResultOwners

def planTokenTtl : Nat := 5 * 60 * 1000

def restoreRootTokenTtl : Nat := 10 * 60 * 1000

def maxPlanGrants : Nat := 8

def maxRestoreRootGrants : Nat := 8

namespace QuarantineRegistry

def new : QuarantineRegistry := ⟨[], [], .new⟩

def liveOwnerEpoch (registry : QuarantineRegistry) (owner : Window) : Except AppError Nat :=
  if owner = "" then
    .error (.quarantine "QUARANTINE_WINDOW_UNAVAILABLE" "窗口身份为空，不能签发隔离授权。")
  else
    let state := registry.owners owner
    if state.closed ∨ state.epoch = maxEpoch then
      .error (.quarantine "QUARANTINE_WINDOW_CLOSED" "窗口已关闭，不能签发新的隔离授权。")
    else .ok state.epoch

def requireLiveOwner (registry : QuarantineRegistry) (owner : Window) (epoch : Nat) :
    Except AppError Unit :=
  if registry.owners.live owner epoch then .ok ()
  else
    .error (.quarantine "QUARANTINE_WINDOW_CLOSED"
      "原生选择器返回前窗口已关闭；未签发隔离授权。")

def issuePlan (registry : QuarantineRegistry) (now : Instant) (owner : Window) (epoch : Nat)
    (plan : QuarantinePlan) : QuarantineRegistry × Except AppError Token :=
  match registry.requireLiveOwner owner epoch with
  | .error error => (registry, .error error)
  | .ok () =>
      let kept := registry.plans.filter fun plan => now < plan.expiresAt
      if kept.length ≥ maxPlanGrants then
        ({ registry with plans := kept },
          .error (.quarantine "QUARANTINE_PLAN_LIMIT_REACHED"
            "待执行隔离计划已达到安全上限；请先执行或等待旧计划过期。"))
      else
        ({ registry with
            plans :=
              { plan with ownerWindowLabel := owner, expiresAt := now + planTokenTtl } :: kept },
          .ok plan.token)

def takePlan (registry : QuarantineRegistry) (now : Instant) (owner : Window) (token : Token) :
    QuarantineRegistry × Except AppError QuarantinePlan :=
  let dropped :=
    { registry with plans := registry.plans.filter fun plan => plan.token ≠ token }
  match registry.plans.find? fun plan => plan.token = token with
  | none =>
      (registry, .error (.quarantine "INVALID_QUARANTINE_PLAN_TOKEN"
        "隔离计划不存在、已使用、已撤销或格式无效；请重新生成计划。"))
  | some plan =>
      if plan.ownerWindowLabel ≠ owner then
        (registry, .error (.quarantine "QUARANTINE_PLAN_OWNER_MISMATCH"
          "该隔离计划不属于当前窗口，已拒绝执行。"))
      else if plan.expiresAt ≤ now then
        (dropped, .error (.quarantine "QUARANTINE_PLAN_EXPIRED"
          "隔离计划已过期；请重新选择保留项并授权目录。"))
      else (dropped, .ok plan)

def issueRestoreRoot (registry : QuarantineRegistry) (now : Instant) (owner : Window)
    (epoch : Nat) (token : Token) (root : String) :
    QuarantineRegistry × Except AppError Token :=
  match registry.requireLiveOwner owner epoch with
  | .error error => (registry, .error error)
  | .ok () =>
      let kept := registry.restoreRoots.filter fun grant => now < grant.expiresAt
      if kept.length ≥ maxRestoreRootGrants then
        ({ registry with restoreRoots := kept },
          .error (.quarantine "QUARANTINE_RESTORE_ROOT_LIMIT_REACHED"
            "恢复目录授权已达到安全上限；请关闭其他窗口或等待旧授权过期。"))
      else
        ({ registry with
            restoreRoots := ⟨token, owner, root, now + restoreRootTokenTtl⟩ :: kept }, .ok token)

def restoreRoot (registry : QuarantineRegistry) (now : Instant) (owner : Window)
    (token : Token) : QuarantineRegistry × Except AppError String :=
  match registry.restoreRoots.find? fun grant => grant.token = token with
  | none =>
      (registry, .error (.quarantine "INVALID_QUARANTINE_RESTORE_ROOT_TOKEN"
        "恢复目录授权不存在、已撤销或格式无效；请重新选择原扫描目录。"))
  | some grant =>
      if grant.ownerWindowLabel ≠ owner then
        (registry, .error (.quarantine "QUARANTINE_RESTORE_ROOT_OWNER_MISMATCH"
          "该恢复目录授权不属于当前窗口，已拒绝访问。"))
      else if grant.expiresAt ≤ now then
        ({ registry with
            restoreRoots := registry.restoreRoots.filter fun grant => grant.token ≠ token },
          .error (.quarantine "QUARANTINE_RESTORE_ROOT_EXPIRED"
            "恢复目录授权已过期；请重新选择原扫描目录。"))
      else (registry, .ok grant.root)

def revokeForOwner (registry : QuarantineRegistry) (owner : Window) : QuarantineRegistry where
  plans := registry.plans.filter fun plan => plan.ownerWindowLabel ≠ owner
  restoreRoots := registry.restoreRoots.filter fun grant => grant.ownerWindowLabel ≠ owner
  owners := registry.owners.markResultOwnerClosed owner

end QuarantineRegistry

end Guiying.Desktop
