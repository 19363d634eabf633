import Guiying.Foundation.Outcome
import Guiying.Quarantine.FileTree

/-!
# What is bound before a file is moved

The root, the parent directory of a member, the operation's own directory and
the keeper are looked up again by name, and each must still be the object that
was opened before.
-/

namespace Guiying.Quarantine

open Guiying.Foundation ByteString Outcome
open Guiying.Desktop (AppError)

structure BoundQuarantineRoot where
  selectedPath : List UInt8
  directory : ObjectKey
  identity : StableRootIdentity

/-- The fields of the sealed evidence that a move looks at. -/
structure QuarantineMemberEvidence where
  ordinal : Int
  rootRelativePathRaw : List UInt8
  sizeBytes : Int
  fileObjectKey : List UInt8
  birthTime : Option FileTime
  modifiedTime : FileTime
  deriving DecidableEq

/-- `u64::try_from` of an `i64`. -/
def sizeOf (sizeBytes : Int) : Option Nat := if 0 ≤ sizeBytes then some sizeBytes.toNat else none

/-! ## The root -/

def operationIdPrefix : List Char := "op-".toList

def tokenHexBytes : Nat := 64

def validateOperationId (value : List Char) : Except AppError Unit :=
  let valid := operationIdPrefix.isPrefixOf value &&
    (value.drop 3).length == tokenHexBytes &&
    (value.drop 3).all fun character =>
      ('0' ≤ character && character ≤ '9') || ('a' ≤ character && character ≤ 'f')
  refuse (!valid) (quarantineError "INVALID_QUARANTINE_OPERATION_ID" "隔离操作编号格式无效。")

def BoundQuarantineRoot.revalidateStableBinding (root : BoundQuarantineRoot) (tree : FileTree) :
    Except AppError Unit := do
  let changed := quarantineError "QUARANTINE_ROOT_CHANGED"
  let descriptor ← (tree.stableRootIdentity root.directory).mapError fun _ =>
    changed "隔离根目录句柄不再可验证。"
  refuse (descriptor ≠ root.identity) (changed "隔离根目录对象身份已经变化。")
  let reopened ← orError (changed "原始目录位置不再指向已授权的隔离根目录。")
    (tree.openAbsoluteDirectoryNofollow root.selectedPath)
  let reopenedIdentity ← (tree.stableRootIdentity reopened).mapError fun _ =>
    changed "无法重新验证原始目录位置。"
  refuse (reopenedIdentity ≠ root.identity) (changed "原始目录位置已被替换；已拒绝继续。")

section

variable (hash : List UInt8 → Bytes32)

/-! ## Members -/

def fileObjectKey (key : ObjectKey) : Bytes32 :=
  hash (asciiBytes "guiying.runtime.file-object.v1\x00" ++ leBytes 8 key.device ++
    leBytes 8 key.inode ++ leBytes 4 key.generation)

def requireMemberIdentity (member : QuarantineMemberEvidence) (identity : FileObjectIdentity) :
    Except AppError Unit :=
  let sizeMatches := sizeOf member.sizeBytes == some identity.size
  let birthMatches := member.birthTime.all fun birth => birth = identity.birthTime
  let modifiedMatches := member.modifiedTime = identity.modifiedTime
  refuse (identity.kind ≠ .regular || !sizeMatches || !birthMatches || !modifiedMatches ||
      identity.hardLinkCount ≠ 1 ||
      (fileObjectKey hash identity.toObjectKey).bytes ≠ member.fileObjectKey)
    (quarantineError "QUARANTINE_SOURCE_CHANGED"
      "文件对象、大小、时间或独立链接身份与封存证据不一致。")

def openMemberRaw (root : BoundQuarantineRoot) (member : QuarantineMemberEvidence)
    (tree : FileTree) : Except AppError ObjectKey := do
  let (parent, name) ← tree.openRelativeParent root.directory member.rootRelativePathRaw
  let file ← orError (quarantineError "QUARANTINE_SOURCE_UNAVAILABLE"
    "文件无法通过 no-follow 目录句柄打开。") (tree.openRegularFileAt parent name)
  requireMemberIdentity hash member (← tree.fileIdentity file)
  .ok file

/-- `require_member_path_binding`: the path is opened twice. -/
def requireMemberPathBinding (root : BoundQuarantineRoot) (member : QuarantineMemberEvidence)
    (expectedIdentity : FileObjectIdentity) (tree : FileTree) : Except AppError Unit := do
  let changed := quarantineError "QUARANTINE_KEEPER_CHANGED"
  root.revalidateStableBinding tree
  let reopened ← (openMemberRaw hash root member tree).mapError fun _ =>
    changed "保留项原始路径不再指向封存时的文件对象。"
  refuse ((← tree.fileIdentity reopened) ≠ expectedIdentity)
    (changed "保留项原始路径在隔离提交边界发生变化。")
  root.revalidateStableBinding tree
  let reopenedAgain ← (openMemberRaw hash root member tree).mapError fun _ =>
    changed "保留项原始路径无法在提交边界完成双重打开复核。"
  refuse ((← tree.fileIdentity reopenedAgain) ≠ expectedIdentity)
    (changed "保留项原始路径在双重打开复核期间发生变化。")
  root.revalidateStableBinding tree

/-! ## Contents -/

def copyBufferBytes : Nat := 1024 * 1024

/-- The chunks in which a file of some size is read. -/
def chunks (size : Nat) : List Nat :=
  List.replicate (size / copyBufferBytes) copyBufferBytes ++
    if size % copyBufferBytes = 0 then [] else [size % copyBufferBytes]

/-- The loop of `compare_exact_readers`; it returns what neither reader has given yet. -/
def compareChunks : List Nat → List UInt8 → List UInt8 →
    Except AppError (List UInt8 × List UInt8)
  | [], left, right => .ok (left, right)
  | chunk :: rest, left, right =>
      if left.length < chunk then
        .error (quarantineError "QUARANTINE_CONTENT_READ_FAILED"
          "保留项在逐字节复核期间无法完整读取。")
      else if right.length < chunk then
        .error (quarantineError "QUARANTINE_CONTENT_READ_FAILED"
          "待隔离项在逐字节复核期间无法完整读取。")
      else if left.take chunk ≠ right.take chunk then
        .error (quarantineError "QUARANTINE_CONTENT_MISMATCH"
          "文件内容不再逐字节一致；未执行隔离。")
      else compareChunks rest (left.drop chunk) (right.drop chunk)

def compareExactReaders (left right : List UInt8) (expectedSize : Nat) :
    Except AppError Bytes32 := do
  let rest ← compareChunks (chunks expectedSize) left right
  refuse (rest.1 ≠ [] || rest.2 ≠ [])
    (quarantineError "QUARANTINE_SOURCE_CHANGED" "文件在复核时增长，已拒绝隔离。")
  .ok (hash (left.take expectedSize))

/-- The bytes of an open file. -/
def FileTree.content (tree : FileTree) (file : ObjectKey) : List UInt8 :=
  ((tree.objects file).map FileObject.content).getD []

/-- `digest_exact_file`: the file has exactly the expected size. -/
def digestExactFile (tree : FileTree) (file : ObjectKey) (expectedSize : Nat) :
    Except AppError Bytes32 :=
  if (tree.content file).length < expectedSize then
    .error (quarantineError "QUARANTINE_CONTENT_READ_FAILED" "隔离文件无法完整读取。")
  else if expectedSize < (tree.content file).length then
    .error (quarantineError "QUARANTINE_SOURCE_CHANGED" "隔离文件在读取期间增长。")
  else .ok (hash (tree.content file))

end

/-! ## Directories -/

def requireRelativeParentBinding (root : BoundQuarantineRoot) (memberPathRaw : List UInt8)
    (expectedIdentity : StableRootIdentity) (tree : FileTree) : Except AppError Unit := do
  let changed := quarantineError "QUARANTINE_PARENT_CHANGED"
  root.revalidateStableBinding tree
  let (reopenedParent, _) ← (tree.openRelativeParent root.directory memberPathRaw).mapError
    fun _ => changed "待隔离文件的父目录已离开授权根或被替换。"
  refuse ((← tree.stableRootIdentity reopenedParent) ≠ expectedIdentity)
    (changed "待隔离文件的父目录路径不再指向提交前的目录对象。")
  root.revalidateStableBinding tree

/-- The directory that an operation's files are in, by name from the root. -/
def openFilesDirectory (kernel : Kernel) (root : BoundQuarantineRoot) (operationId : List Char)
    (tree : FileTree) : Except AppError ObjectKey := do
  let changed := quarantineError "QUARANTINE_PARENT_CHANGED"
  let quarantine ← orError (changed "隔离目录已离开授权根、被替换或不再安全。")
    (tree.openPrivateDirectoryAt kernel root.directory quarantineDirectory)
  let operations ← orError (changed "隔离操作目录已离开授权根、被替换或不再安全。")
    (tree.openPrivateDirectoryAt kernel quarantine operationsDirectory)
  let operation ← orError (changed "当前隔离操作目录已离开授权根或被替换。")
    (tree.openPrivateDirectoryAt kernel operations (operationId.map ascii))
  orError (changed "隔离文件目录已离开授权根或被替换。")
    (tree.openPrivateDirectoryAt kernel operation filesDirectory)

/-- One round of `require_internal_files_directory_binding`. -/
def filesDirectoryRound (kernel : Kernel) (root : BoundQuarantineRoot) (operationId : List Char)
    (expectedIdentity : StableRootIdentity) (tree : FileTree) : Except AppError Unit := do
  root.revalidateStableBinding tree
  let files ← openFilesDirectory kernel root operationId tree
  refuse ((← tree.stableRootIdentity files) ≠ expectedIdentity)
    (quarantineError "QUARANTINE_PARENT_CHANGED" "隔离 files 路径不再指向恢复提交前的目录对象。")

def requireInternalFilesDirectoryBinding (kernel : Kernel) (root : BoundQuarantineRoot)
    (operationId : List Char) (expectedIdentity : StableRootIdentity) (tree : FileTree) :
    Except AppError Unit := do
  validateOperationId operationId
  filesDirectoryRound kernel root operationId expectedIdentity tree
  filesDirectoryRound kernel root operationId expectedIdentity tree
  root.revalidateStableBinding tree

def requireSourcePathIdentity (sourceParent : ObjectKey) (sourceName : Name)
    (expectedIdentity : FileObjectIdentity) (tree : FileTree) : Except AppError Unit := do
  let pathIdentity ← orError (quarantineError "QUARANTINE_SOURCE_CHANGED" "待隔离目录项在移动前消失。")
    (tree.fileIdentityAt sourceParent sourceName)
  refuse (pathIdentity ≠ expectedIdentity)
    (quarantineError "QUARANTINE_SOURCE_CHANGED" "待隔离目录项在移动前被替换。")

/-! ## Companions -/

def sidecarExtensions : List Name :=
  ["xmp", "XMP", "aae", "AAE", "thm", "THM", "dop", "DOP", "pp3", "PP3", "on1", "ON1", "json",
    "JSON", "xml", "XML"].map asciiBytes

/-- The names that a companion of a file could have. -/
def companionCandidates (stem rawName : Name) : List Name :=
  (sidecarExtensions.flatMap fun extension =>
    [stem ++ [ascii '.'] ++ extension, rawName ++ [ascii '.'] ++ extension]) ++
    [asciiBytes "._" ++ rawName]

/-- The bytes before the last dot. -/
def beforeLastDot (rawName : Name) : Option Name :=
  if ascii '.' ∈ rawName then
    some (rawName.reverse.dropWhile (· ≠ ascii '.')).tail.reverse
  else none

def ensureNoKnownCompanion (root : BoundQuarantineRoot) (member : QuarantineMemberEvidence)
    (tree : FileTree) : Except AppError Unit := do
  let (parent, rawName) ← tree.openRelativeParent root.directory member.rootRelativePathRaw
  let stem ← orError (quarantineError "QUARANTINE_FILE_TYPE_UNSUPPORTED" "文件扩展名无效。")
    (beforeLastDot rawName)
  refuse ((companionCandidates stem rawName).any fun candidate =>
      candidate ≠ rawName && tree.entryExistsAt parent candidate)
    (quarantineError "QUARANTINE_COMPANION_ASSET_PRESENT"
      "检测到同名 XMP/AAE/编辑清单或 AppleDouble 伴随资产；整项保持原位。")

end Guiying.Quarantine
