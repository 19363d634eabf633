import Guiying.Desktop.WindowGrants
import Guiying.Foundation.ByteString

/-!
# The file tree under a quarantine root

Files and directories as the kernel knows them: an object keeps its device,
inode and generation for as long as it is open, and a directory maps names to
objects. A handle is the object it was opened on, so it stays valid when the
object is renamed. What the code checks is a look at the tree.
-/

namespace Guiying.Quarantine

open Guiying.Foundation ByteString
open Guiying.Desktop (AppError)

abbrev Name := List UInt8

structure ObjectKey where
  device : Nat
  inode : Nat
  generation : Nat
  deriving DecidableEq

inductive ObjectKind where
  | regular
  | directory
  | other
  deriving DecidableEq

structure FileTime where
  seconds : Int
  nanoseconds : Nat
  deriving DecidableEq

structure FileObject where
  kind : ObjectKind
  permissions : Nat
  uid : Nat
  hardLinkCount : Nat
  content : List UInt8
  birthTime : FileTime
  modifiedTime : FileTime
  changeTime : FileTime
  deriving DecidableEq

/-- What `fstat` says; kind and permissions are the mode. -/
structure FileObjectIdentity extends ObjectKey where
  kind : ObjectKind
  permissions : Nat
  hardLinkCount : Nat
  size : Nat
  birthTime : FileTime
  modifiedTime : FileTime
  changeTime : FileTime
  deriving DecidableEq

structure StableRootIdentity extends ObjectKey where
  permissions : Nat
  deriving DecidableEq

structure FileTree where
  top : ObjectKey
  objects : ObjectKey → Option FileObject
  entries : ObjectKey → Name → Option ObjectKey

/-- What the kernel answers beside the tree: the user, whether a directory can be synced, and
whether a directory may be moved into another. -/
structure Kernel where
  euid : Nat
  syncs : ObjectKey → Bool
  movesDirectory : ObjectKey → ObjectKey → Bool

def quarantineError (code message : String) : AppError := .quarantine code message

/-! ## Identities -/

def FileObject.identity (object : FileObject) (key : ObjectKey) : FileObjectIdentity where
  toObjectKey := key
  kind := object.kind
  permissions := object.permissions
  hardLinkCount := object.hardLinkCount
  size := object.content.length
  birthTime := object.birthTime
  modifiedTime := object.modifiedTime
  changeTime := object.changeTime

/-- `same_file_object_and_content_metadata`: all but the change time. -/
def sameFileObjectAndContentMetadata (left right : FileObjectIdentity) : Bool :=
  left.toObjectKey = right.toObjectKey && left.kind = right.kind &&
    left.permissions = right.permissions && left.hardLinkCount = right.hardLinkCount &&
    left.size = right.size && left.birthTime = right.birthTime &&
    left.modifiedTime = right.modifiedTime

namespace FileTree

/-- The object of a directory's entry. -/
def lookup (tree : FileTree) (parent : ObjectKey) (name : Name) :
    Option (ObjectKey × FileObject) :=
  (tree.entries parent name).bind fun key => (tree.objects key).map fun object => (key, object)

def entryExistsAt (tree : FileTree) (parent : ObjectKey) (name : Name) : Bool :=
  (tree.entries parent name).isSome

/-- `file_identity_at` -/
def fileIdentityAt (tree : FileTree) (parent : ObjectKey) (name : Name) :
    Option FileObjectIdentity :=
  (tree.lookup parent name).map fun found => found.2.identity found.1

/-- `file_identity` of an open file. -/
def fileIdentity (tree : FileTree) (file : ObjectKey) : Except AppError FileObjectIdentity :=
  match tree.objects file with
  | some object => .ok (object.identity file)
  | none => .error (quarantineError "QUARANTINE_IDENTITY_CHECK_FAILED" "无法读取文件对象身份。")

def stableRootIdentity (tree : FileTree) (file : ObjectKey) : Except AppError StableRootIdentity := do
  let identity ← tree.fileIdentity file
  if identity.kind ≠ .directory then
    .error (quarantineError "QUARANTINE_ROOT_UNSAFE" "授权根对象不再是目录。")
  else .ok ⟨identity.toObjectKey, identity.permissions⟩

/-! ## Opening -/

/-- `open_directory_at`; a link is not followed. -/
def openDirectoryAt (tree : FileTree) (parent : ObjectKey) (name : Name) : Option ObjectKey :=
  (tree.lookup parent name).bind fun found =>
    if found.2.kind = .directory then some found.1 else none

def openRegularFileAt (tree : FileTree) (parent : ObjectKey) (name : Name) : Option ObjectKey :=
  (tree.lookup parent name).bind fun found =>
    if found.2.kind = .regular then some found.1 else none

/-- `open_private_directory_at`: no permission for others, and owned by the user. -/
def openPrivateDirectoryAt (tree : FileTree) (kernel : Kernel) (parent : ObjectKey)
    (name : Name) : Option ObjectKey :=
  (tree.lookup parent name).bind fun found =>
    if found.2.kind = .directory ∧ found.2.permissions &&& 0o077 = 0 ∧ found.2.uid = kernel.euid
    then some found.1 else none

end FileTree

def slash : UInt8 := ascii '/'

def dotName : Name := asciiBytes "."

def dotDotName : Name := asciiBytes ".."

def quarantineDirectory : Name := asciiBytes ".guiying-quarantine"

def operationsDirectory : Name := asciiBytes "operations"

def filesDirectory : Name := asciiBytes "files"

namespace FileTree

/-- `open_absolute_directory_nofollow` -/
def openAbsoluteDirectoryNofollow (tree : FileTree) (path : List UInt8) : Option ObjectKey :=
  if path.head? ≠ some slash ∨ 0 ∈ path then none
  else
    ((path.splitOn slash).filter fun part => part ≠ []).foldlM
      (fun current component =>
        if component = dotName ∨ component = dotDotName then none
        else tree.openDirectoryAt current component) tree.top

end FileTree

/-- The loop of `split_relative_components`. -/
def splitFrom (components : List Name) : List Name → Except AppError (List Name)
  | [] => .ok components
  | component :: rest =>
      if component = [] ∨ component = dotName ∨ component = dotDotName then
        .error (quarantineError "QUARANTINE_PATH_UNSAFE" "隔离成员路径包含空、点或父目录组件。")
      else if component.length > 16 * 1024 ∨ components.length ≥ 1024 then
        .error (quarantineError "QUARANTINE_PATH_UNSAFE" "隔离成员路径超过组件安全上限。")
      else splitFrom (components ++ [component]) rest

def splitRelativeComponents (raw : List UInt8) : Except AppError (List Name) :=
  if raw = [] ∨ raw.head? = some slash ∨ 0 ∈ raw then
    .error (quarantineError "QUARANTINE_PATH_UNSAFE"
      "隔离成员路径必须是非空、相对且不含 NUL 的原生路径。")
  else splitFrom [] (raw.splitOn slash)

namespace FileTree

/-- The way down from the root to the parent directory of a member. -/
def descend (tree : FileTree) (root current : ObjectKey) :
    List Name → Except AppError ObjectKey
  | [] => .ok current
  | component :: rest =>
      match tree.openDirectoryAt current component with
      | none =>
          .error (quarantineError "QUARANTINE_PATH_UNSAFE"
            "原始文件的父目录已移动、被替换或包含链接。")
      | some next => do
          let identity ← tree.stableRootIdentity next
          let rootIdentity ← tree.stableRootIdentity root
          if identity.device ≠ rootIdentity.device then
            .error (quarantineError "QUARANTINE_CROSS_VOLUME_PATH"
              "原始文件路径穿过了嵌套卷；当前安全子集不处理该文件。")
          else tree.descend root next rest

def openRelativeParent (tree : FileTree) (root : ObjectKey) (raw : List UInt8) :
    Except AppError (ObjectKey × Name) := do
  let components ← splitRelativeComponents raw
  if components.head? = some quarantineDirectory then
    .error (quarantineError "QUARANTINE_PATH_UNSAFE" "用户媒体路径不能进入归影隔离目录。")
  else
    let parent ← tree.descend root root components.dropLast
    .ok (parent, components.getLastD [])

/-! ## Moving -/

/-- One object under another name; the kernel notes the change. -/
def move (tree : FileTree) (source : ObjectKey × Name) (target : ObjectKey × Name)
    (moved : ObjectKey) (changed : FileTime) : FileTree :=
  { tree with
    objects := Function.update tree.objects moved
      ((tree.objects moved).map fun object => { object with changeTime := changed })
    entries := fun parent name =>
      if (parent, name) = target then some moved
      else if (parent, name) = source then none
      else tree.entries parent name }

/-- `rename_noreplace`: the kernel never replaces an entry, never moves between devices, and may
refuse to move a directory. -/
def renameNoreplace (tree : FileTree) (kernel : Kernel) (source target : ObjectKey × Name)
    (changed : FileTime) : Except AppError FileTree :=
  match tree.lookup source.1 source.2 with
  | none => failed "QUARANTINE_RENAME_FAILED"
  | some (key, object) =>
      if source.1.device ≠ target.1.device then failed "QUARANTINE_CROSS_VOLUME_RENAME"
      else if tree.entryExistsAt target.1 target.2 then failed "QUARANTINE_TARGET_EXISTS"
      else if object.kind = .directory ∧ kernel.movesDirectory key target.1 = false then
        failed "QUARANTINE_RENAME_FAILED"
      else .ok (tree.move source target key changed)
where
  failed (code : String) : Except AppError FileTree :=
    .error (quarantineError code "同卷 no-overwrite 移动失败；没有覆盖任何已有对象。")

end FileTree

/-! ## Changes from outside -/

/-- What another program does with names: it renames, also over an entry, it creates an object,
and it gives a file another name. -/
inductive OutsideChange where
  | rename (source target : ObjectKey × Name) (changed : FileTime)
  | create (parent : ObjectKey) (name : Name) (key : ObjectKey) (object : FileObject)
  | link (source target : ObjectKey × Name) (changed : FileTime)

namespace FileTree

/-- An object that has one name more or fewer. -/
def relink (tree : FileTree) (key : ObjectKey) (links : Nat → Nat) (changed : FileTime) :
    FileTree :=
  { tree with
    objects := Function.update tree.objects key ((tree.objects key).map fun object =>
      { object with hardLinkCount := links object.hardLinkCount, changeTime := changed }) }

def changeOutside (tree : FileTree) : OutsideChange → FileTree
  | .rename source target changed =>
      match tree.entries source.1 source.2 with
      | none => tree
      | some moved =>
          match tree.entries target.1 target.2 with
          | none => tree.move source target moved changed
          | some replaced =>
              if replaced = moved then tree
              else (tree.relink replaced (· - 1) changed).move source target moved changed
  | .create parent name key object =>
      if (tree.entries parent name).isSome ∨ (tree.objects key).isSome then tree
      else
        { tree with
          objects := Function.update tree.objects key (some object)
          entries := fun other otherName =>
            if (other, otherName) = (parent, name) then some key else tree.entries other otherName }
  | .link source target changed =>
      match tree.entries source.1 source.2 with
      | none => tree
      | some linked =>
          if (tree.entries target.1 target.2).isSome then tree
          else
            { tree.relink linked (· + 1) changed with
              entries := fun parent name =>
                if (parent, name) = target then some linked else tree.entries parent name }

/-- Several changes, one after the other. -/
def changesOutside (tree : FileTree) (changes : List OutsideChange) : FileTree :=
  changes.foldl changeOutside tree

end FileTree

end Guiying.Quarantine
