import Guiying.Foundation.Outcome
import Guiying.Foundation.Utf16
import Guiying.Foundation.Utf8

/-!
# Native relative paths

The rules for a path below a mount root or a scan root, on either kind of system,
and the text it is displayed with.
-/

namespace Guiying.Volume

open Guiying.Foundation ByteString Outcome

inductive NativePathEncoding where
  | unixBytes
  | windowsUtf16Le
  deriving DecidableEq

def NativePathEncoding.domainByte : NativePathEncoding → UInt8
  | .unixBytes => 1
  | .windowsUtf16Le => 2

/-- The decoder's own text of a `invalidBase64` is left out. -/
inductive PathError where
  | encodingProfileMismatch
  | profileMismatch
  | pathTooLong (limit : Nat)
  | tooManyComponents (limit : Nat)
  | componentTooLong (index limit : Nat)
  | absolutePath
  | nul
  | emptyComponent (index : Nat)
  | dotComponent (index : Nat)
  | parentComponent (index : Nat)
  | invalidUtf16Length
  | windowsAdsOrDrive
  | windowsForbiddenCharacter (index : Nat)
  | windowsReservedDevice (index : Nat)
  | windowsAmbiguousTrailingCharacter (index : Nat)
  | invalidBase64
  | displayMismatch
  | displayTooLong (limit : Nat)
  | pathKeyMismatch
  | unsupportedEncoding
  deriving DecidableEq

def maxRelativePathBytes : Nat := 64 * 1024

def maxPathComponents : Nat := 1024

def maxComponentBytes : Nat := 16 * 1024

def maxDisplayPathBytes : Nat := maxRelativePathBytes * 3

/-! ## Unix -/

def slash : UInt8 := ascii '/'

def dotName : List UInt8 := [ascii '.']

def parentName : List UInt8 := [ascii '.', ascii '.']

def validateComponentBudget (index bytes : Nat) : Except PathError Unit :=
  refuse (decide (maxComponentBytes < bytes)) (.componentTooLong index maxComponentBytes)

/-- The loop over the components; the count is the index of the next one. -/
def validateUnixComponents (index : Nat) : List (List UInt8) → Except PathError Nat
  | [] => .ok index
  | component :: rest => do
      validateComponentBudget index component.length
      refuse (component = []) (.emptyComponent index)
      refuse (component = dotName) (.dotComponent index)
      refuse (component = parentName) (.parentComponent index)
      refuse (decide (maxPathComponents < index + 1)) (.tooManyComponents maxPathComponents)
      validateUnixComponents (index + 1) rest

def validateUnix (raw : List UInt8) : Except PathError Nat :=
  if raw = [] then .ok 0
  else if raw.head? = some slash then .error .absolutePath
  else if 0 ∈ raw then .error .nul
  else validateUnixComponents 0 (raw.splitOn slash)

/-! ## Windows -/

def unitOf (character : Char) : UInt16 := UInt16.ofNat character.toNat

def isWindowsSeparator (unit : UInt16) : Bool := unit = unitOf '\\' || unit = unitOf '/'

def toAsciiUppercase (unit : UInt16) : UInt16 :=
  if unitOf 'a' ≤ unit ∧ unit ≤ unitOf 'z' then unit - 32 else unit

def matchesAscii (units : List UInt16) (text : String) : Bool := units = text.toList.map unitOf

def numberedWindowsDevice (stem : List UInt16) (text : String) : Bool :=
  match stem with
  | [first, second, third, digit] =>
      matchesAscii [first, second, third] text &&
        (unitOf '0' ≤ digit && digit ≤ unitOf '9' ||
          digit = 0x00B9 || digit = 0x00B2 || digit = 0x00B3)
  | _ => false

def isWindowsDevice (component : List UInt16) : Bool :=
  let stem := (component.takeWhile (· ≠ unitOf '.')).map toAsciiUppercase
  ["CON", "PRN", "AUX", "NUL", "CLOCK$", "CONIN$", "CONOUT$"].any (matchesAscii stem) ||
    numberedWindowsDevice stem "COM" || numberedWindowsDevice stem "LPT"

def windowsForbidden : List UInt16 := ['<', '>', '"', '|', '?', '*'].map unitOf

def validateWindowsComponents (index : Nat) : List (List UInt16) → Except PathError Nat
  | [] => .ok index
  | component :: rest => do
      validateComponentBudget index (component.length * 2)
      refuse (component = []) (.emptyComponent index)
      refuse (component = [unitOf '.']) (.dotComponent index)
      refuse (component = [unitOf '.', unitOf '.']) (.parentComponent index)
      refuse (component.getLast?.any fun unit => unit = 0x20 || unit = 0x2E)
        (.windowsAmbiguousTrailingCharacter index)
      refuse (component.any fun unit => unit < 0x20 || unit ∈ windowsForbidden)
        (.windowsForbiddenCharacter index)
      refuse (isWindowsDevice component) (.windowsReservedDevice index)
      refuse (decide (maxPathComponents < index + 1)) (.tooManyComponents maxPathComponents)
      validateWindowsComponents (index + 1) rest

def validateWindows (raw : List UInt8) : Except PathError Nat :=
  if raw.length % 2 ≠ 0 then .error .invalidUtf16Length
  else
    let units := Utf16.units raw
    match units with
    | [] => .ok 0
    | first :: _ =>
        if isWindowsSeparator first then .error .absolutePath
        else if 0 ∈ units then .error .nul
        else if unitOf ':' ∈ units then .error .windowsAdsOrDrive
        else validateWindowsComponents 0 (units.splitOnP isWindowsSeparator)

/-! ## Either -/

def validateNative (raw : List UInt8) : NativePathEncoding → Except PathError Nat
  | .unixBytes => validateUnix raw
  | .windowsUtf16Le => validateWindows raw

def validateRelativeRaw (raw : List UInt8) (encoding : NativePathEncoding) :
    Except PathError Nat :=
  if maxRelativePathBytes < raw.length then .error (.pathTooLong maxRelativePathBytes)
  else validateNative raw encoding

/-- `display_raw`, in UTF-8. -/
def displayRaw (raw : List UInt8) : NativePathEncoding → List UInt8
  | .unixBytes => Utf8.lossy raw
  | .windowsUtf16Le => Utf16.utf8 (Utf16.lossy (Utf16.units raw))

/-- Invalid bytes and lone surrogates are what the display of a path grows by. -/
theorem length_displayRaw_le (raw : List UInt8) (encoding : NativePathEncoding) :
    (displayRaw raw encoding).length ≤ 3 * raw.length := by
  cases encoding with
  | unixBytes => exact Utf8.length_lossy_le raw
  | windowsUtf16Le =>
      have decoded := Utf16.length_utf8_lossy_le (Utf16.units raw)
      have read := Utf16.length_units raw
      simp only [displayRaw]
      omega

structure RootRelativePath where
  encoding : NativePathEncoding
  raw : List UInt8
  display : List UInt8
  componentCount : Nat
  mountSessionKey : Bytes32
  deriving DecidableEq

namespace RootRelativePath

def fromRaw (raw : List UInt8) (encoding : NativePathEncoding) (mountSessionKey : Bytes32) :
    Except PathError RootRelativePath := do
  let componentCount ← validateRelativeRaw raw encoding
  .ok { encoding, raw, display := displayRaw raw encoding, componentCount, mountSessionKey }

def isRoot (path : RootRelativePath) : Bool := path.componentCount = 0

end RootRelativePath

end Guiying.Volume
