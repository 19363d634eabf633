import Guiying.Quarantine.Binding

/-!
# Moving one member into quarantine

The checks before the commit rename, the rename, what other programs do to names
after it, the verification, and the rollback of a move that is not verified.
-/

namespace Guiying.Quarantine

open Guiying.Foundation ByteString Outcome
open Guiying.Desktop (AppError)

/-- The arguments of `move_one_member`. -/
structure MoveCall where
  root : BoundQuarantineRoot
  keeper : QuarantineMemberEvidence
  member : QuarantineMemberEvidence
  filesDirectory : ObjectKey
  operationId : List Char
  quarantineName : Name
  expectedDigest : Bytes32

/-- What was found before the commit, and is looked at again after it. -/
structure MoveBarrier where
  filesDirectoryIdentity : StableRootIdentity
  sourceParent : ObjectKey
  sourceName : Name
  sourceParentIdentity : StableRootIdentity
  keeperIdentity : FileObjectIdentity
  sourceIdentity : FileObjectIdentity
  deriving DecidableEq

structure MoveOneMemberFailure where
  error : AppError
  committedInQuarantine : Bool
  deriving DecidableEq

section

variable (hash : List UInt8 → Bytes32) (kernel : Kernel) (call : MoveCall)

/-- The last barriers before and the first after the commit. -/
def requireBarrier (barrier : MoveBarrier) (tree : FileTree) : Except AppError Unit := do
  requireMemberPathBinding hash call.root call.keeper barrier.keeperIdentity tree
  requireRelativeParentBinding call.root call.member.rootRelativePathRaw
    barrier.sourceParentIdentity tree
  requireInternalFilesDirectoryBinding kernel call.root call.operationId
    barrier.filesDirectoryIdentity tree
  requireSourcePathIdentity barrier.sourceParent barrier.sourceName barrier.sourceIdentity tree

def beforeCommit (tree : FileTree) : Except AppError MoveBarrier := do
  call.root.revalidateStableBinding tree
  validateOperationId call.operationId
  let filesDirectoryIdentity ← tree.stableRootIdentity call.filesDirectory
  requireInternalFilesDirectoryBinding kernel call.root call.operationId filesDirectoryIdentity tree
  ensureNoKnownCompanion call.root call.member tree
  let (sourceParent, sourceName) ← tree.openRelativeParent call.root.directory
    call.member.rootRelativePathRaw
  let sourceParentIdentity ← tree.stableRootIdentity sourceParent
  let keeperFile ← openMemberRaw hash call.root call.keeper tree
  let sourceFile ← orError (quarantineError "QUARANTINE_SOURCE_UNAVAILABLE"
    "待隔离文件无法通过 no-follow 目录句柄打开。") (tree.openRegularFileAt sourceParent sourceName)
  let keeperIdentity ← tree.fileIdentity keeperFile
  let sourceIdentity ← tree.fileIdentity sourceFile
  requireMemberIdentity hash call.keeper keeperIdentity
  requireMemberIdentity hash call.member sourceIdentity
  let size ← orError (quarantineError "QUARANTINE_EVIDENCE_INVALID" "文件大小证据无效。")
    (sizeOf call.member.sizeBytes)
  let digest ← compareExactReaders hash (tree.content keeperFile) (tree.content sourceFile) size
  refuse (digest ≠ call.expectedDigest || (← tree.fileIdentity keeperFile) ≠ keeperIdentity ||
      (← tree.fileIdentity sourceFile) ≠ sourceIdentity)
    (quarantineError "QUARANTINE_SOURCE_CHANGED"
      "文件在最终逐字节复核期间发生变化；已停止隔离。")
  let barrier : MoveBarrier :=
    { filesDirectoryIdentity, sourceParent, sourceName, sourceParentIdentity, keeperIdentity
      sourceIdentity }
  requireBarrier hash kernel call barrier tree
  refuse (tree.entryExistsAt call.filesDirectory call.quarantineName)
    (quarantineError "QUARANTINE_TARGET_EXISTS" "隔离目标名称已存在；为避免覆盖，已停止执行。")
  requireBarrier hash kernel call barrier tree
  .ok barrier

/-- The checks and the commit rename. -/
def commit (committedAt : FileTime) (tree : FileTree) :
    Except AppError (MoveBarrier × FileTree) := do
  let barrier ← beforeCommit hash kernel call tree
  let committed ← tree.renameNoreplace kernel (barrier.sourceParent, barrier.sourceName)
    (call.filesDirectory, call.quarantineName) committedAt
  .ok (barrier, committed)

/-- The verification that follows the commit. -/
def verifyMoved (barrier : MoveBarrier) (tree : FileTree) : Except AppError Unit := do
  let failed := quarantineError "QUARANTINE_POST_MOVE_VERIFY_FAILED"
  requireInternalFilesDirectoryBinding kernel call.root call.operationId
    barrier.filesDirectoryIdentity tree
  requireMemberPathBinding hash call.root call.keeper barrier.keeperIdentity tree
  requireRelativeParentBinding call.root call.member.rootRelativePathRaw
    barrier.sourceParentIdentity tree
  refuse (tree.entryExistsAt barrier.sourceParent barrier.sourceName)
    (failed "隔离提交后原始位置出现了新对象；操作不能报告成功。")
  refuse (!kernel.syncs barrier.sourceParent || !kernel.syncs call.filesDirectory)
    (quarantineError "QUARANTINE_DURABILITY_FAILED" "隔离目录元数据未能持久化；恢复清单仍保留。")
  let moved ← orError (failed "隔离后无法重新打开目标文件；恢复清单已保留。")
    (tree.openRegularFileAt call.filesDirectory call.quarantineName)
  let movedIdentity ← tree.fileIdentity moved
  let size ← orError (quarantineError "QUARANTINE_MANIFEST_INVALID" "隔离文件大小无效。")
    (sizeOf call.member.sizeBytes)
  let movedDigest ← digestExactFile hash tree moved size
  refuse (!sameFileObjectAndContentMetadata movedIdentity barrier.sourceIdentity ||
      movedDigest ≠ call.expectedDigest || (← tree.fileIdentity moved) ≠ movedIdentity)
    (failed "隔离后的文件对象身份或内容发生变化。")
  requireMemberPathBinding hash call.root call.keeper barrier.keeperIdentity tree
  requireRelativeParentBinding call.root call.member.rootRelativePathRaw
    barrier.sourceParentIdentity tree
  requireInternalFilesDirectoryBinding kernel call.root call.operationId
    barrier.filesDirectoryIdentity tree
  call.root.revalidateStableBinding tree

/-- The path of the member still leads to the directory it was moved from. -/
def sourceParentContained (barrier : MoveBarrier) (tree : FileTree) : Bool :=
  (requireRelativeParentBinding call.root call.member.rootRelativePathRaw
    barrier.sourceParentIdentity tree).isOk

/-- The member is where it was moved to, and that is still inside the root. -/
def movedObjectIsInTarget (barrier : MoveBarrier) (tree : FileTree) : Bool :=
  (requireInternalFilesDirectoryBinding kernel call.root call.operationId
      barrier.filesDirectoryIdentity tree).isOk &&
    (tree.fileIdentityAt call.filesDirectory call.quarantineName).any fun identity =>
      sameFileObjectAndContentMetadata identity barrier.sourceIdentity

/-- `rollback_failed_post_move_verification` -/
def rollbackFailedPostMoveVerification (barrier : MoveBarrier) (rolledBackAt : FileTime)
    (tree : FileTree) : MoveOneMemberFailure × FileTree :=
  let inTarget := movedObjectIsInTarget kernel call barrier tree
  let kept (message : String) : MoveOneMemberFailure × FileTree :=
    (⟨quarantineError "QUARANTINE_POST_MOVE_VERIFY_FAILED" message, inTarget⟩, tree)
  let inPlace := "隔离提交边界复核失败；原父目录不再证明位于授权根内，文件已保留在根内隔离区并写入恢复清单。"
  if sourceParentContained call barrier tree then
    match tree.renameNoreplace kernel (call.filesDirectory, call.quarantineName)
        (barrier.sourceParent, barrier.sourceName) rolledBackAt with
    | .ok rolledBack =>
        (⟨quarantineError "QUARANTINE_POST_MOVE_VERIFY_FAILED"
            "隔离提交边界复核失败，文件已通过 no-overwrite 移回仍位于授权根内的原目录。", false⟩,
          rolledBack)
    | .error _ =>
        kept (if inTarget then inPlace
          else "隔离提交边界复核失败且 no-overwrite 移回未完成；请使用恢复清单处理。")
  else
    kept (if inTarget then inPlace
      else "隔离提交边界复核失败，且源与隔离目录的授权根归属无法同时证明；操作不会报告成功。")

/-- `move_one_member_with_post_rename_hook`: the hook stands for what other programs do. -/
def moveOneMemberWithPostRenameHook (committedAt rolledBackAt : FileTime)
    (outside : List OutsideChange) (tree : FileTree) :
    Except MoveOneMemberFailure Unit × FileTree :=
  match commit hash kernel call committedAt tree with
  | .error error => (.error ⟨error, false⟩, tree)
  | .ok (barrier, committed) =>
      let observed := committed.changesOutside outside
      match verifyMoved hash kernel call barrier observed with
      | .ok _ => (.ok (), observed)
      | .error _ =>
          let (failure, rolledBack) :=
            rollbackFailedPostMoveVerification kernel call barrier rolledBackAt observed
          (.error failure, rolledBack)

end

end Guiying.Quarantine
