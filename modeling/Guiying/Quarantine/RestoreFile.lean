import Guiying.Quarantine.Manifest

/-!
# Restoring one file

A file that is already back at its original path is accepted when it is the file of
the manifest. Otherwise it is moved back by the same steps that moved it away: the
checks, the rename, the verification and the rollback.
-/

namespace Guiying.Quarantine

open Guiying.Foundation ByteString Outcome
open Guiying.Desktop (AppError)

/-- What the checks of a restore have found. -/
structure RestoreBarrier where
  rawPath : List UInt8
  size : Nat
  filesDirectoryIdentity : StableRootIdentity
  destinationParent : ObjectKey
  destinationName : Name
  destinationParentIdentity : StableRootIdentity
  identity : FileObjectIdentity
  deriving DecidableEq

section

variable (hash : List UInt8 → Bytes32) (kernel : Kernel) (root : BoundQuarantineRoot)
  (filesDirectory : ObjectKey) (operationId : Text) (file : ManifestFile) (expectedDigest : Bytes32)

/-- The open file is the one of the manifest. -/
def requireManifestFile (tree : FileTree) (opened : ObjectKey) (size : Nat) (fileKey : Bytes32)
    (error : AppError) : Except AppError FileObjectIdentity := do
  let identity ← tree.fileIdentity opened
  refuse (fileObjectKey hash identity.toObjectKey ≠ fileKey || identity.hardLinkCount ≠ 1 ||
    identity.size ≠ size) error
  refuse ((← digestExactFile hash tree opened size) ≠ expectedDigest) error
  refuse ((← tree.fileIdentity opened) ≠ identity) error
  .ok identity

/-- The checks; `none` when the file is back already. -/
def beforeRestore (tree : FileTree) : Except AppError (Option RestoreBarrier) := do
  root.revalidateStableBinding tree
  validateOperationId operationId
  let filesDirectoryIdentity ← tree.stableRootIdentity filesDirectory
  requireInternalFilesDirectoryBinding kernel root operationId filesDirectoryIdentity tree
  let rawPath ← originalPath file (manifestInvalid "恢复清单中的原始路径编码无效。")
    (manifestInvalid "恢复清单中的原始路径不是规范编码。")
  validateStandaloneMediaPath rawPath
  let size ← parseCanonicalU64 file.sizeBytes "sizeBytes"
  let fileKey ← parseHex32 file.fileObjectKeyHex "fileObjectKeyHex"
  let quarantineName := textBytes file.quarantineFileName
  refuse (0 ∈ quarantineName) (quarantineError "QUARANTINE_PATH_UNSAFE" "隔离内部名称包含 NUL。")
  let (destinationParent, destinationName) ← tree.openRelativeParent root.directory rawPath
  let destinationParentIdentity ← tree.stableRootIdentity destinationParent
  requireRelativeParentBinding root rawPath destinationParentIdentity tree
  match tree.entryExistsAt filesDirectory quarantineName,
      tree.entryExistsAt destinationParent destinationName with
  | false, true => do
      let existing ← orError (quarantineError "QUARANTINE_RESTORE_CONFLICT"
        "原始位置已有对象且不能证明是该隔离文件。")
        (tree.openRegularFileAt destinationParent destinationName)
      let _ ← requireManifestFile hash expectedDigest tree existing size fileKey
        (quarantineError "QUARANTINE_RESTORE_CONFLICT" "原始位置已有不同对象；为避免覆盖，已停止恢复。")
      requireRelativeParentBinding root rawPath destinationParentIdentity tree
      .ok none
  | true, false => do
      let quarantined ← orError (quarantineError "QUARANTINE_RESTORE_SOURCE_INVALID"
        "隔离文件无法安全打开。") (tree.openRegularFileAt filesDirectory quarantineName)
      let identity ← requireManifestFile hash expectedDigest tree quarantined size fileKey
        (quarantineError "QUARANTINE_RESTORE_SOURCE_INVALID"
          "隔离文件的对象身份或内容摘要与恢复清单不一致。")
      requireInternalFilesDirectoryBinding kernel root operationId filesDirectoryIdentity tree
      requireRelativeParentBinding root rawPath destinationParentIdentity tree
      requireSourcePathIdentity filesDirectory quarantineName identity tree
      refuse (tree.entryExistsAt destinationParent destinationName)
        (quarantineError "QUARANTINE_RESTORE_CONFLICT"
          "恢复提交前原始位置出现了对象；未覆盖该对象。")
      .ok (some { rawPath, size, filesDirectoryIdentity, destinationParent, destinationName
                  destinationParentIdentity, identity })
  | true, true => .error (quarantineError "QUARANTINE_RESTORE_CONFLICT"
      "隔离区和原始位置同时存在对象；为避免覆盖，已停止恢复。")
  | false, false => .error (quarantineError "QUARANTINE_RESTORE_SOURCE_MISSING"
      "隔离文件与原始文件均不存在；清单已保留供人工处理。")

/-- The verification that follows the rename. -/
def verifyRestored (barrier : RestoreBarrier) (tree : FileTree) : Except AppError Unit := do
  let failed := quarantineError "QUARANTINE_RESTORE_VERIFY_FAILED"
  requireInternalFilesDirectoryBinding kernel root operationId barrier.filesDirectoryIdentity tree
  requireRelativeParentBinding root barrier.rawPath barrier.destinationParentIdentity tree
  refuse (tree.entryExistsAt filesDirectory (textBytes file.quarantineFileName))
    (failed "恢复提交后隔离目标名出现了新对象；操作不能报告成功。")
  refuse (!kernel.syncs filesDirectory || !kernel.syncs barrier.destinationParent)
    (quarantineError "QUARANTINE_DURABILITY_FAILED" "隔离目录元数据未能持久化；恢复清单仍保留。")
  let restored ← orError (failed "恢复后无法重新打开原始位置。")
    (tree.openRegularFileAt barrier.destinationParent barrier.destinationName)
  let restoredIdentity ← tree.fileIdentity restored
  refuse (!sameFileObjectAndContentMetadata restoredIdentity barrier.identity)
    (failed "恢复后的文件身份或内容复核失败。")
  refuse ((← digestExactFile hash tree restored barrier.size) ≠ expectedDigest)
    (failed "恢复后的文件身份或内容复核失败。")
  refuse ((← tree.fileIdentity restored) ≠ restoredIdentity)
    (failed "恢复后的文件身份或内容复核失败。")
  requireInternalFilesDirectoryBinding kernel root operationId barrier.filesDirectoryIdentity tree
  requireRelativeParentBinding root barrier.rawPath barrier.destinationParentIdentity tree
  root.revalidateStableBinding tree

/-- `rollback_failed_post_restore_verification` -/
def rollbackFailedPostRestoreVerification (barrier : RestoreBarrier) (rolledBackAt : FileTime)
    (tree : FileTree) : AppError × FileTree :=
  match tree.renameNoreplace kernel (barrier.destinationParent, barrier.destinationName)
      (filesDirectory, textBytes file.quarantineFileName) rolledBackAt with
  | .ok rolledBack =>
      (quarantineError "QUARANTINE_RESTORE_VERIFY_FAILED"
        "恢复提交边界复核失败，文件已通过 no-overwrite 移回隔离目录对象。", rolledBack)
  | .error _ =>
      (quarantineError "QUARANTINE_RESTORE_VERIFY_FAILED"
        "恢复提交边界复核失败且自动移回隔离区未完成；恢复清单仍保留。", tree)

/-- `restore_one_file_with_post_rename_hook`: the hook stands for what other programs do. -/
def restoreOneFileWithPostRenameHook (committedAt rolledBackAt : FileTime)
    (outside : List OutsideChange) (tree : FileTree) : Except AppError Unit × FileTree :=
  match beforeRestore hash kernel root filesDirectory operationId file expectedDigest tree with
  | .error error => (.error error, tree)
  | .ok none => (.ok (), tree)
  | .ok (some barrier) =>
      match tree.renameNoreplace kernel (filesDirectory, textBytes file.quarantineFileName)
          (barrier.destinationParent, barrier.destinationName) committedAt with
      | .error error => (.error error, tree)
      | .ok committed =>
          let observed := committed.changesOutside outside
          match verifyRestored hash kernel root filesDirectory operationId file expectedDigest
              barrier observed with
          | .ok _ => (.ok (), observed)
          | .error _ =>
              let (error, rolledBack) := rollbackFailedPostRestoreVerification kernel filesDirectory
                file barrier rolledBackAt observed
              (.error error, rolledBack)

end

end Guiying.Quarantine
