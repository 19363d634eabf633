import Guiying.Foundation.Base64
import Guiying.Foundation.Decimal
import Guiying.Foundation.Program
import Guiying.Quarantine.Binding

/-!
# The manifest of a quarantine operation

The record that an operation keeps beside its files, the checks it passes whenever
it is read or written, and the write that replaces the one on disk.
-/

namespace Guiying.Quarantine

open Guiying.Foundation ByteString Outcome MachineInt
open Guiying.Desktop (AppError)

abbrev Text := List Char

structure ManifestFile where
  ordinal : Text
  observationId : Text
  originalRelativePathBase64 : Text
  quarantineFileName : Text
  sizeBytes : Text
  fileObjectKeyHex : Text
  state : String
  deriving DecidableEq

structure OperationManifest where
  schemaVersion : Nat
  operationId : Text
  scanRunId : Text
  groupBuildId : Text
  keeperOrdinal : Text
  groupKeyHex : Text
  evidenceManifestHex : Text
  contentDigestAlgorithm : String
  contentDigestHex : Text
  createdAtUnixMs : Text
  updatedAtUnixMs : Text
  status : String
  files : List ManifestFile
  deriving DecidableEq

def manifestInvalid (message : String) : AppError :=
  quarantineError "QUARANTINE_MANIFEST_INVALID" message

/-! ## Numbers and digests -/

/-- `parse::<u64>`: a plus or none, then digits. -/
def parseU64 (value : Text) : Option Nat :=
  let digits := if value.head? = some '+' then value.tail else value
  let number := Nat.ofDigitChars 10 digits 0
  if digits = [] ∨ ¬ digits.all Char.isDigit then none
  else if number < u64Bound then some number
  else none

def parseCanonicalU64 (value : Text) (field : String) : Except AppError Nat := do
  let parsed ← orError (manifestInvalid ("隔离清单字段 " ++ field ++ " 不是有效整数。"))
    (parseU64 value)
  refuse (Nat.toDigits 10 parsed ≠ value)
    (manifestInvalid ("隔离清单字段 " ++ field ++ " 不是规范十进制整数。"))
  .ok parsed

def isLowerHex (character : Char) : Bool :=
  ('0' ≤ character && character ≤ '9') || ('a' ≤ character && character ≤ 'f')

def hexNibble (character : Char) : UInt8 :=
  if character ≤ '9' then UInt8.ofNat (character.toNat - 48)
  else UInt8.ofNat (character.toNat - 97 + 10)

def hexPairs : Text → List UInt8
  | high :: low :: rest => (hexNibble high * 16 + hexNibble low) :: hexPairs rest
  | _ => []

theorem length_hexPairs (value : Text) : (hexPairs value).length = value.length / 2 := by
  induction value using hexPairs.induct with
  | case1 high low rest ih =>
      simp only [hexPairs, List.length_cons, ih]
      omega
  | case2 value short =>
      match value, short with
      | [], _ => rfl
      | [_], _ => simp [hexPairs]
      | high :: low :: rest, short => exact absurd rfl (short high low rest)

def parseHex32 (value : Text) (field : String) : Except AppError Bytes32 :=
  if valid : value.length = 64 ∧ value.all isLowerHex then
    .ok ⟨hexPairs value, by rw [length_hexPairs, valid.1]⟩
  else .error (manifestInvalid ("隔离清单字段 " ++ field ++ " 不是规范的 32 字节十六进制值。"))

/-! ## Paths and names -/

def allowedExtensions : List Name :=
  ["jpg", "jpeg", "png", "gif", "webp", "heic", "heif", "tif", "tiff", "bmp", "avif"].map asciiBytes

def asciiLower (byte : UInt8) : UInt8 := if 0x41 ≤ byte ∧ byte ≤ 0x5A then byte + 32 else byte

/-- The bytes after the last dot. -/
def afterLastDot (name : Name) : Name := (name.reverse.takeWhile (· ≠ ascii '.')).reverse

def validateStandaloneMediaPath (raw : List UInt8) : Except AppError Unit := do
  let components ← splitRelativeComponents raw
  let fileName := components.getLastD []
  let stem ← orError (quarantineError "QUARANTINE_FILE_TYPE_UNSUPPORTED"
    "无扩展名文件可能需要伴随资产决策，当前版本不会自动隔离。") (beforeLastDot fileName)
  let extension := afterLastDot fileName
  refuse (stem = [] || extension = [])
    (quarantineError "QUARANTINE_FILE_TYPE_UNSUPPORTED" "该文件名不能证明是受支持的独立媒体文件。")
  refuse (!allowedExtensions.any fun allowed => extension.map asciiLower = allowed)
    (quarantineError "QUARANTINE_FILE_TYPE_UNSUPPORTED"
      "当前安全子集只隔离常规独立图片；RAW、视频、包与未知格式仍保持原位。")
  refuse (components.head? = some quarantineDirectory)
    (quarantineError "QUARANTINE_PATH_UNSAFE" "封存成员不能位于归影自己的隔离目录。")

def validateInternalFileName (value : Text) : Except AppError Unit :=
  refuse (value = [] || 128 < Decimal.byteLength value || value.contains '/' ||
      value.contains (Char.ofNat 0) || value = ['.'] || value = ['.', '.'])
    (manifestInvalid "隔离清单内部文件名无效。")

/-- The bytes of a text in UTF-8. -/
def textBytes (value : Text) : List UInt8 := value.flatMap String.utf8EncodeChar

/-- The original path of a file, in its only encoding. -/
def originalPath (file : ManifestFile) (undecodable uncanonical : AppError) :
    Except AppError (List UInt8) := do
  let encoded := textBytes file.originalRelativePathBase64
  let raw ← orError undecodable (Base64.decode encoded)
  refuse (Base64.encode raw ≠ encoded) uncanonical
  .ok raw

/-! ## The checks -/

def manifestStatuses : List String :=
  ["prepared", "quarantining", "quarantined", "needs_recovery", "restoring", "restored",
    "partially_restored"]

def fileStates : List String := ["planned", "quarantined", "restored"]

/-- The checks of one file; no name and no path may have been seen before. -/
def validateFiles : List Text → List (List UInt8) → List ManifestFile → Except AppError Unit
  | _, _, [] => .ok ()
  | seenNames, seenPaths, file :: rest => do
      let _ ← parseCanonicalU64 file.ordinal "ordinal"
      let _ ← parseCanonicalU64 file.observationId "observationId"
      let _ ← parseCanonicalU64 file.sizeBytes "sizeBytes"
      let _ ← parseHex32 file.fileObjectKeyHex "fileObjectKeyHex"
      let raw ← originalPath file (manifestInvalid "隔离清单路径编码无效。")
        (manifestInvalid "隔离清单路径不是规范编码。")
      validateStandaloneMediaPath raw
      validateInternalFileName file.quarantineFileName
      refuse (file.quarantineFileName ∈ seenNames || raw ∈ seenPaths)
        (manifestInvalid "隔离清单包含重复目标名或重复原始路径。")
      refuse (file.state ∉ fileStates) (manifestInvalid "隔离清单包含未知文件状态。")
      validateFiles (file.quarantineFileName :: seenNames) (raw :: seenPaths) rest

def validateManifest (manifest : OperationManifest) (expectedOperationId : Text) :
    Except AppError Unit := do
  validateOperationId expectedOperationId
  refuse (manifest.schemaVersion ≠ 1 || manifest.operationId ≠ expectedOperationId ||
      manifest.contentDigestAlgorithm ≠ "blake3" || manifest.status ∉ manifestStatuses ||
      manifest.files = [] || 255 < manifest.files.length ||
      Decimal.byteLength manifest.groupKeyHex ≠ 64 ||
      Decimal.byteLength manifest.evidenceManifestHex ≠ 64 ||
      Decimal.byteLength manifest.contentDigestHex ≠ 64)
    (manifestInvalid "隔离恢复清单版本、身份或边界字段无效。")
  let _ ← parseCanonicalU64 manifest.scanRunId "scanRunId"
  let _ ← parseCanonicalU64 manifest.groupBuildId "groupBuildId"
  let _ ← parseCanonicalU64 manifest.keeperOrdinal "keeperOrdinal"
  let created ← parseCanonicalU64 manifest.createdAtUnixMs "createdAtUnixMs"
  let updated ← parseCanonicalU64 manifest.updatedAtUnixMs "updatedAtUnixMs"
  refuse (updated < created) (manifestInvalid "隔离清单更新时间早于创建时间。")
  let _ ← parseHex32 manifest.groupKeyHex "groupKeyHex"
  let _ ← parseHex32 manifest.evidenceManifestHex "evidenceManifestHex"
  let _ ← parseHex32 manifest.contentDigestHex "contentDigestHex"
  validateFiles [] [] manifest.files

/-! ## Writing -/

def maxOperationManifestBytes : Nat := 2 * 1024 * 1024

/-- How the disk takes a manifest: the temporary file cannot be written or renamed, or the
directory cannot be synced after the rename. -/
inductive ManifestDisk where
  | takes
  | refuses (error : AppError)
  | unsynced (error : AppError)

/-- `write_manifest`; the state is the manifest on disk. -/
def writeManifest (toVecPretty : OperationManifest → List UInt8) (unixTimeMs : Nat)
    (disk : ManifestDisk) (manifest : OperationManifest) :
    Program OperationManifest AppError OperationManifest := do
  let manifest := { manifest with updatedAtUnixMs := Nat.toDigits 10 unixTimeMs }
  Program.ofExcept (validateManifest manifest manifest.operationId)
  Program.ensure (decide ((toVecPretty manifest).length ≤ maxOperationManifestBytes))
    (quarantineError "QUARANTINE_MANIFEST_WRITE_FAILED" "隔离恢复清单超过 2 MiB 安全上限。")
  match disk with
  | .refuses error => Program.fail error
  | .unsynced error => do
      Program.update fun _ => manifest
      Program.fail error
  | .takes => do
      Program.update fun _ => manifest
      pure manifest

end Guiying.Quarantine
