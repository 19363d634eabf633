import Guiying.Desktop.ScanJob
import Guiying.Foundation.MachineInt

/-!
# Result-read grants

A window opens a sealed result and reads it through a token. The tombstone of a
window that has closed is looked at under the registry lock wherever a token is
issued, used or handed back.
-/

namespace Guiying.Desktop

open Guiying.Foundation.MachineInt

/-- Random identifiers are only compared. -/
abbrev Token := Nat

/-- Readings of the monotonic clock, in milliseconds. -/
abbrev Instant := Nat

/-! ## Owners -/

structure ResultOwnerState where
  epoch : Nat
  closed : Bool
  deriving DecidableEq

abbrev ResultOwners := Window → ResultOwnerState

/-- `u64::MAX` -/
def maxEpoch : Nat := u64Bound - 1

namespace ResultOwners

def new : ResultOwners := fun _ => ⟨0, false⟩

/-- `saturating_add`; nothing opens a window again. -/
def markResultOwnerClosed (owners : ResultOwners) (owner : Window) : ResultOwners :=
  Function.update owners owner ⟨saturatingAdd u64Bound (owners owner).epoch 1, true⟩

/-- The owner is open and its epoch is the expected one. -/
def live (owners : ResultOwners) (owner : Window) (epoch : Nat) : Bool :=
  !(owners owner).closed && (owners owner).epoch == epoch

end ResultOwners

/-! ## The registry -/

/-- The database, its reader and the context of a run: compared as a whole. -/
structure ResultSource where
  databasePath : String
  databaseScope : Nat
  reader : Nat
  context : Nat
  deriving DecidableEq

structure ResultReadGrant where
  token : Token
  ownerWindowLabel : Window
  source : ResultSource
  scanRunId : Int
  generation : Nat
  ownerEpoch : Nat
  inFlight : Bool
  expiresAt : Instant
  deriving DecidableEq

structure PendingResultOpen where
  sequence : Nat
  ownerWindowLabel : Window
  scanRunId : Int
  ownerEpoch : Nat
  deriving DecidableEq

structure ResultReadRegistry where
  grants : List ResultReadGrant
  pendingOpens : List PendingResultOpen
  nextGeneration : Nat
  nextOpenSequence : Nat

/-- What a caller holds between `begin_result_open` and the issue of its token. -/
abbrev ResultOpenPermit := PendingResultOpen

/-- A lease is a copy of the grant it was begun with. -/
structure ResultReadLease where
  token : Token
  ownerWindowLabel : Window
  source : ResultSource
  scanRunId : Int
  generation : Nat
  ownerEpoch : Nat
  deriving DecidableEq

structure ResultExportBinding where
  resultReadToken : Token
  ownerWindowLabel : Window
  ownerEpoch : Nat
  resultGeneration : Nat
  source : ResultSource
  scanRunId : Int
  deriving DecidableEq

namespace AppError

def invalidResultReadToken : AppError :=
  ⟨"INVALID_RESULT_READ_TOKEN", "结果查看授权不存在、已撤销或格式无效；请重新打开该历史结果。", none⟩

def resultReadTokenOwnerMismatch : AppError :=
  ⟨"RESULT_READ_TOKEN_OWNER_MISMATCH", "该结果查看授权不属于当前窗口，已拒绝访问。", none⟩

def resultReadTokenExpired : AppError :=
  ⟨"RESULT_READ_TOKEN_EXPIRED", "结果查看授权已过期，请重新打开该历史结果。", none⟩

def resultReadRegistryFull : AppError :=
  ⟨"RESULT_READ_REGISTRY_FULL",
    "当前窗口打开的历史结果已达到安全上限；请先关闭不再查看的结果。", none⟩

def resultReadBusy : AppError :=
  ⟨"RESULT_READ_BUSY", "该封存结果已有一个读取请求正在执行；请等待后重试。", none⟩

def resultReadTokenUnavailable (message : String) : AppError :=
  ⟨"RESULT_READ_TOKEN_UNAVAILABLE", message, none⟩

end AppError

def maxResultReadTokens : Nat := 32

def maxResultReadTokensPerOwner : Nat := 8

def maxTokenAttempts : Nat := 8

def resultReadTokenTtl : Nat := 30 * 60 * 1000

/-- The first of the drawn tokens that is not in use. -/
def freshToken (used : Token → Bool) (drawn : List Token) : Option Token :=
  (drawn.take maxTokenAttempts).find? fun token => !used token

namespace ResultReadRegistry

def new : ResultReadRegistry := ⟨[], [], 0, 0⟩

def grant (registry : ResultReadRegistry) (token : Token) : Option ResultReadGrant :=
  registry.grants.find? fun grant => grant.token = token

def dropGrant (registry : ResultReadRegistry) (token : Token) : ResultReadRegistry :=
  { registry with grants := registry.grants.filter fun grant => grant.token ≠ token }

def pruneExpired (registry : ResultReadRegistry) (now : Instant) : ResultReadRegistry :=
  { registry with grants := registry.grants.filter fun grant => now < grant.expiresAt }

/-- The grants that a new one for the same window and run replaces. -/
def replaced (registry : ResultReadRegistry) (owner : Window) (scanRunId : Int) :
    List ResultReadGrant :=
  registry.grants.filter fun grant =>
    grant.ownerWindowLabel = owner && grant.scanRunId = scanRunId

def ownerGrants (registry : ResultReadRegistry) (owner : Window) : Nat :=
  (registry.grants.filter fun grant => grant.ownerWindowLabel = owner).length

/-- `begin_result_open`. Its look at the owner before it waits for the registry is made again
under both locks, and a closed owner stays closed. -/
def beginResultOpen (registry : ResultReadRegistry) (owners : ResultOwners) (now : Instant)
    (owner : Window) (scanRunId : Int) :
    ResultReadRegistry × Except AppError ResultOpenPermit :=
  if owner = "" ∨ scanRunId ≤ 0 then
    (registry, .error (.resultReadTokenUnavailable "窗口身份或历史选择编号无效，不能打开封存结果。"))
  else
    let registry := registry.pruneExpired now
    let state := owners owner
    if state.closed ∨ state.epoch = maxEpoch then (registry, .error .invalidResultReadToken)
    else if registry.pendingOpens.any fun pending =>
        pending.ownerWindowLabel = owner && pending.scanRunId = scanRunId then
      (registry, .error .resultReadBusy)
    else
      let replacedGrants := (registry.replaced owner scanRunId).length
      let total := registry.grants.length - replacedGrants + registry.pendingOpens.length
      let ofOwner := registry.ownerGrants owner - replacedGrants +
        (registry.pendingOpens.filter fun pending => pending.ownerWindowLabel = owner).length
      if total ≥ maxResultReadTokens ∨ ofOwner ≥ maxResultReadTokensPerOwner then
        (registry, .error .resultReadRegistryFull)
      else
        match checkedAdd u64Bound registry.nextOpenSequence 1 with
        | none =>
            (registry, .error (.resultReadTokenUnavailable "结果打开序列号已耗尽；请重启应用。"))
        | some sequence =>
            let permit : ResultOpenPermit := ⟨sequence, owner, scanRunId, state.epoch⟩
            ({ registry with
                nextOpenSequence := sequence
                pendingOpens := permit :: registry.pendingOpens }, .ok permit)

/-- A permit that is dropped without a token. -/
def dropPending (registry : ResultReadRegistry) (sequence : Nat) : ResultReadRegistry :=
  { registry with
    pendingOpens := registry.pendingOpens.filter fun pending => pending.sequence ≠ sequence }

/-- `issue_result_read_at`; on success also the tokens that the new one replaces. -/
def issueResultRead (registry : ResultReadRegistry) (owners : ResultOwners) (now : Instant)
    (permit : ResultOpenPermit) (source : ResultSource) (drawn : List Token) :
    ResultReadRegistry × Except AppError (Token × List Token) :=
  if !owners.live permit.ownerWindowLabel permit.ownerEpoch then
    (registry, .error .invalidResultReadToken)
  else if permit ∉ registry.pendingOpens then (registry, .error .invalidResultReadToken)
  else
    let registry := registry.pruneExpired now
    let replacedTokens :=
      (registry.replaced permit.ownerWindowLabel permit.scanRunId).map ResultReadGrant.token
    let total := registry.grants.length - replacedTokens.length + (registry.pendingOpens.length - 1)
    let ofOwner := registry.ownerGrants permit.ownerWindowLabel - replacedTokens.length +
      (registry.pendingOpens.filter fun pending =>
        pending.ownerWindowLabel = permit.ownerWindowLabel &&
          pending.scanRunId ≠ permit.scanRunId).length
    if total ≥ maxResultReadTokens ∨ ofOwner ≥ maxResultReadTokensPerOwner then
      (registry, .error .resultReadRegistryFull)
    else
      match checkedAdd u64Bound registry.nextGeneration 1 with
      | none => (registry, .error (.resultReadTokenUnavailable "结果查看授权代际编号已耗尽。"))
      | some generation =>
          match freshToken (fun token => (registry.grant token).isSome) drawn with
          | none =>
              (registry,
                .error (.resultReadTokenUnavailable "结果查看授权令牌发生重复，已安全终止签发。"))
          | some token =>
              let kept := registry.grants.filter fun grant : ResultReadGrant => grant.token ∉ replacedTokens
              ({ grants :=
                  { token, ownerWindowLabel := permit.ownerWindowLabel, source
                    scanRunId := permit.scanRunId, generation, ownerEpoch := permit.ownerEpoch
                    inFlight := false, expiresAt := now + resultReadTokenTtl } :: kept
                 pendingOpens := (registry.dropPending permit.sequence).pendingOpens
                 nextGeneration := generation
                 nextOpenSequence := registry.nextOpenSequence }, .ok (token, replacedTokens))

def setInFlight (registry : ResultReadRegistry) (token : Token) (inFlight : Bool) :
    ResultReadRegistry :=
  { registry with
    grants := registry.grants.map fun grant =>
      if grant.token = token then { grant with inFlight } else grant }

def beginResultRead (registry : ResultReadRegistry) (owners : ResultOwners) (now : Instant)
    (owner : Window) (token : Token) : ResultReadRegistry × Except AppError ResultReadLease :=
  match registry.grant token with
  | none => (registry, .error .invalidResultReadToken)
  | some grant =>
      if grant.ownerWindowLabel ≠ owner then (registry, .error .resultReadTokenOwnerMismatch)
      else if !owners.live owner grant.ownerEpoch then (registry, .error .invalidResultReadToken)
      else if grant.expiresAt ≤ now then
        (registry.dropGrant token, .error .resultReadTokenExpired)
      else if grant.inFlight then (registry, .error .resultReadBusy)
      else
        (registry.setInFlight token true,
          .ok ⟨token, owner, grant.source, grant.scanRunId, grant.generation, grant.ownerEpoch⟩)

/-- `release_result_read_in_flight` -/
def releaseInFlight (registry : ResultReadRegistry) (lease : ResultReadLease) :
    ResultReadRegistry :=
  match registry.grant lease.token with
  | none => registry
  | some grant =>
      if grant.generation = lease.generation ∧ grant.ownerEpoch = lease.ownerEpoch then
        registry.setInFlight lease.token false
      else registry

def finishResultRead (registry : ResultReadRegistry) (owners : ResultOwners) (now : Instant)
    (lease : ResultReadLease) : ResultReadRegistry × Except AppError Unit :=
  match registry.grant lease.token with
  | none => (registry, .error .invalidResultReadToken)
  | some grant =>
      if grant.expiresAt ≤ now then
        (registry.dropGrant lease.token, .error .resultReadTokenExpired)
      else if grant.ownerWindowLabel ≠ lease.ownerWindowLabel then
        (registry, .error .resultReadTokenOwnerMismatch)
      else if !owners.live lease.ownerWindowLabel lease.ownerEpoch then
        (registry.releaseInFlight lease, .error .invalidResultReadToken)
      else if grant.generation ≠ lease.generation ∨ grant.ownerEpoch ≠ lease.ownerEpoch ∨
          grant.scanRunId ≠ lease.scanRunId ∨ grant.source ≠ lease.source ∨ !grant.inFlight then
        (registry.releaseInFlight lease, .error .invalidResultReadToken)
      else (registry.releaseInFlight lease, .ok ())

/-- `close_result_read`; the answer says whether there was a grant. -/
def closeResultRead (registry : ResultReadRegistry) (owner : Window) (token : Token) :
    ResultReadRegistry × Except AppError Bool :=
  match registry.grant token with
  | none => (registry, .ok false)
  | some grant =>
      if grant.ownerWindowLabel ≠ owner then (registry, .error .resultReadTokenOwnerMismatch)
      else (registry.dropGrant token, .ok true)

def removeResultReadsForOwner (registry : ResultReadRegistry) (owner : Window) :
    ResultReadRegistry :=
  { registry with
    pendingOpens := registry.pendingOpens.filter fun pending => pending.ownerWindowLabel ≠ owner
    grants := registry.grants.filter fun grant => grant.ownerWindowLabel ≠ owner }

def snapshotResultExportBinding (registry : ResultReadRegistry) (owners : ResultOwners)
    (now : Instant) (owner : Window) (token : Token) :
    ResultReadRegistry × Except AppError ResultExportBinding :=
  match registry.grant token with
  | none => (registry, .error .invalidResultReadToken)
  | some grant =>
      if grant.ownerWindowLabel ≠ owner then (registry, .error .resultReadTokenOwnerMismatch)
      else if !owners.live owner grant.ownerEpoch then (registry, .error .invalidResultReadToken)
      else if grant.expiresAt ≤ now then
        (registry.dropGrant token, .error .resultReadTokenExpired)
      else
        (registry,
          .ok ⟨token, owner, grant.ownerEpoch, grant.generation, grant.source, grant.scanRunId⟩)

end ResultReadRegistry

end Guiying.Desktop
