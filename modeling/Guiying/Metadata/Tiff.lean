import Guiying.Metadata.Reader

/-!
# The TIFF walk

One TIFF container is a header and directories of entries that point to each other. Malformed
structure in one directory or one entry becomes an issue and the walk goes on.
-/

namespace Guiying.Metadata

open Guiying.Foundation Guiying.Foundation.ByteString

namespace Tiff

def headerBytes : Nat := 8
def ifdEntryBytes : Nat := 12
def ifdNextPointerBytes : Nat := 4

def tagModifyDate : Nat := 0x0132
def tagExifIfd : Nat := 0x8769
def tagDateTimeOriginal : Nat := 0x9003
def tagCreateDate : Nat := 0x9004
def tagOffsetTimeOriginal : Nat := 0x9011
def tagSubsecTimeOriginal : Nat := 0x9291

def typeAscii : Nat := 2
def typeLong : Nat := 4

end Tiff

inductive TiffOrigin where
  | direct
  | jpeg (app1Offset : Nat)
  deriving DecidableEq

/-- Location facts of one walk. -/
structure TiffWalk where
  headerOffset : Nat
  containerEnd : Nat
  byteOrder : TiffByteOrder
  origin : TiffOrigin

/-- One entry of a directory, at an offset of the source. -/
structure IfdEntry where
  offset : Nat
  tag : Nat
  fieldType : Nat
  valueCount : Nat
  /-- The last four bytes as a number: an offset, unless the value itself fits there. -/
  value : Nat

def TiffWalk.container (walk : TiffWalk) (ifdOffset tag : Nat) : MetadataContainer :=
  match walk.origin with
  | .direct => .tiff walk.headerOffset ifdOffset tag walk.byteOrder
  | .jpeg app1Offset => .jpegExif app1Offset walk.headerOffset ifdOffset tag walk.byteOrder

namespace Tiff

open Parse Program

def readInteger (byteOrder : TiffByteOrder) (bytes : List UInt8) : Nat :=
  match byteOrder with
  | .littleEndian => readLittleEndian bytes
  | .bigEndian => readBigEndian bytes

def readU16 (byteOrder : TiffByteOrder) (bytes : List UInt8) : Nat :=
  readInteger byteOrder (bytes.take 2)

def readU32 (byteOrder : TiffByteOrder) (bytes : List UInt8) : Nat :=
  readInteger byteOrder (bytes.take 4)

def byteOrderMark (mark : List UInt8) : Option TiffByteOrder :=
  if mark = asciiBytes "II" then some .littleEndian
  else if mark = asciiBytes "MM" then some .bigEndian
  else none

def fieldKind (role : IfdRole) (tag : Nat) : Option MetadataFieldKind :=
  match role with
  | .primary => if tag = tagModifyDate then some .exifModifyDate else none
  | .exif =>
      if tag = tagDateTimeOriginal then some .exifDateTimeOriginal
      else if tag = tagCreateDate then some .exifCreateDate
      else if tag = tagOffsetTimeOriginal then some .exifOffsetTimeOriginal
      else if tag = tagSubsecTimeOriginal then some .exifSubSecTimeOriginal
      else none
  | .other => none

def ensureInContainer (offset length containerEnd : Nat) (context : String) : Parse Unit := do
  let stop ← checkedAdd offset length (some offset) "TIFF range overflow"
  ensure (stop ≤ containerEnd) (.outOfBounds offset context)

/-! ## Entries -/

section Walk

variable (reader : MetadataReader) (walk : TiffWalk)

def decodeEntry (entry : List UInt8) (offset : Nat) : IfdEntry where
  offset := offset
  tag := readU16 walk.byteOrder entry
  fieldType := readU16 walk.byteOrder (entry.drop 2)
  valueCount := readU32 walk.byteOrder (entry.drop 4)
  value := readU32 walk.byteOrder (entry.drop 8)

/-- A value of at most four bytes stands in the entry itself. -/
def valueOffset (entry : IfdEntry) : Parse Nat :=
  if entry.valueCount ≤ 4 then
    checkedAdd entry.offset 8 (some entry.offset) "inline TIFF value offset overflow"
  else
    checkedAdd walk.headerOffset entry.value (some entry.offset)
      "external TIFF value offset overflow"

def extractTimestampField (ifdOffset : Nat) (entry : IfdEntry) (kind : MetadataFieldKind) :
    Parse MetadataField := do
  ensure (entry.fieldType = typeAscii ∧ entry.valueCount ≠ 0)
    (.invalid entry.offset "timestamp field is not non-empty TIFF ASCII")
  let offset ← valueOffset walk entry
  ensureInContainer offset entry.valueCount walk.containerEnd "TIFF timestamp value"
  let rawBytes ← reader.readFieldBytes offset entry.valueCount
  pure {
    parser := parserIdentity
    kind
    encoding := .declaredAscii
    locator := ⟨offset, entry.valueCount, walk.container ifdOffset entry.tag⟩
    rawBytes }

/-- A pointer to the Exif directory, next to the one found before it. -/
def exifPointer (entry : IfdEntry) (exifIfd : Option Nat) : Parse (Option Nat) :=
  if entry.fieldType ≠ typeLong ∨ entry.valueCount ≠ 1 then do
    pushIssue (.invalid entry.offset "Exif IFD pointer type/count")
    pure exifIfd
  else if entry.value = 0 then pure exifIfd
  else if exifIfd.isSome then do
    pushIssue (.invalid entry.offset "duplicate Exif IFD pointer")
    pure exifIfd
  else pure (some entry.value)

def processEntry (role : IfdRole) (ifdOffset : Nat) (entry : IfdEntry) (exifIfd : Option Nat) :
    Parse (Option Nat) :=
  if entry.tag = tagExifIfd ∧ role = .primary then exifPointer entry exifIfd
  else
    match fieldKind role entry.tag with
    | none => pure exifIfd
    | some kind => do
        isolated do
          let field ← extractTimestampField reader walk ifdOffset entry kind
          pushField field
        pure exifIfd

/-- The entries of a table from an index on. -/
def processEntries (role : IfdRole) (ifdOffset tableOffset : Nat) (table : List UInt8) :
    Nat → Nat → Option Nat → Parse (Option Nat)
  | 0, _, exifIfd => pure exifIfd
  | remaining + 1, index, exifIfd => do
      let delta ← checkedMul index ifdEntryBytes (some tableOffset) "TIFF entry offset overflow"
      let entryOffset ← checkedAdd tableOffset delta (some tableOffset) "TIFF entry offset overflow"
      let entry := decodeEntry walk (slice table (index * ifdEntryBytes) ifdEntryBytes) entryOffset
      let exifIfd ← processEntry reader walk role ifdOffset entry exifIfd
      processEntries role ifdOffset tableOffset table remaining (index + 1) exifIfd

/-! ## Directories -/

def insertVisited (ifdOffset : Nat) : Parse Unit := do
  let state ← current
  ensure (ifdOffset ∉ state.visited) (.cycle ifdOffset "TIFF IFD pointer cycle")
  update fun state => { state with visited := ifdOffset :: state.visited }

def pushTask (task : IfdTask) : Parse Unit :=
  update fun state => { state with pending := task :: state.pending }

/-- The number of entries of a directory, where its table starts, and the table. -/
def readTable (ifdOffset : Nat) : Parse (Nat × Nat × List UInt8) := do
  ensureInContainer ifdOffset 2 walk.containerEnd "TIFF IFD entry count"
  let countBytes ← reader.readVec ifdOffset 2 "read TIFF IFD entry count"
  let count := readU16 walk.byteOrder countBytes
  reader.visitIfdEntries ifdOffset count
  let entriesBytes ← checkedMul count ifdEntryBytes (some ifdOffset)
    "TIFF IFD table length overflow"
  let tableBytes ← checkedAdd entriesBytes ifdNextPointerBytes (some ifdOffset)
    "TIFF IFD table length overflow"
  let tableOffset ← checkedAdd ifdOffset 2 (some ifdOffset) "TIFF IFD table offset overflow"
  ensureInContainer tableOffset tableBytes walk.containerEnd "TIFF IFD table"
  let table ← reader.readVec tableOffset tableBytes "read TIFF IFD table"
  pure (count, tableOffset, table)

def pushNext (nextRelative depth : Nat) : Parse Unit :=
  if nextRelative = 0 then pure () else pushTask ⟨nextRelative, .other, depth⟩

def pushExif (exifIfd : Option Nat) (depth : Nat) : Parse Unit :=
  match exifIfd with
  | none => pure ()
  | some relativeOffset => pushTask ⟨relativeOffset, .exif, depth⟩

/-- The Exif directory goes on the stack behind the next one, so it is walked first. -/
def pushFollowing (task : IfdTask) (ifdOffset nextRelative : Nat) (exifIfd : Option Nat) :
    Parse Unit := do
  let nextDepth ← orFail (.overflow (some ifdOffset) "TIFF IFD depth overflow")
    (MachineInt.checkedAdd MachineInt.u16Bound task.depth 1)
  pushNext nextRelative nextDepth
  pushExif exifIfd nextDepth

def processIfd (task : IfdTask) : Parse Unit := do
  let ifdOffset ← checkedAdd walk.headerOffset task.relativeOffset (some walk.headerOffset)
    "TIFF IFD offset overflow"
  ensure (headerBytes ≤ task.relativeOffset) (.invalid ifdOffset "TIFF IFD points into header")
  insertVisited ifdOffset
  reader.observeDepth task.depth reader.limits.maxIfdDepth ifdOffset "TIFF IFD depth limit"
  let (count, tableOffset, table) ← readTable reader walk ifdOffset
  let exifIfd ← processEntries reader walk task.role ifdOffset tableOffset table count 0 none
  let nextRelative := readU32 walk.byteOrder (table.drop (count * ifdEntryBytes))
  pushFollowing task ifdOffset nextRelative exifIfd

def popTask : Parse (Option IfdTask) := fun state =>
  match state.pending with
  | [] => (.ok none, state)
  | task :: rest => (.ok (some task), { state with pending := rest })

def walkPending : Nat → Parse Unit
  | 0 => pure ()
  | rounds + 1 => do
      match ← popTask with
      | none => pure ()
      | some task => do
          isolated (processIfd reader walk task)
          walkPending rounds

/-- Every directory that is walked has its place in the container to itself, and leads to at most
two others. -/
def walkRounds : Nat := 2 * (walk.containerEnd - walk.headerOffset) + 1

end Walk

/-- Run with the locals of a walk fresh; its caller's are as before. -/
def withLocals (program : Parse Unit) : Parse Unit := fun state =>
  let ended := program { state with visited := [], pending := [] }
  (ended.1, { ended.2 with visited := state.visited, pending := state.pending })

def walkContainer (reader : MetadataReader) (headerOffset containerEnd : Nat)
    (origin : TiffOrigin) : Parse Unit := do
  ensure (containerEnd ≤ reader.sourceLen ∧ headerOffset ≤ containerEnd)
    (.outOfBounds headerOffset "TIFF container range")
  ensureInContainer headerOffset headerBytes containerEnd "TIFF header"
  let header ← reader.readVec headerOffset headerBytes "read TIFF header"
  let byteOrder ← orFail (.invalid headerOffset "TIFF byte-order marker")
    (byteOrderMark (header.take 2))
  ensure (readU16 byteOrder (header.drop 2) = 42) (.invalid headerOffset "TIFF magic number")
  let firstIfd := readU32 byteOrder (header.drop 4)
  if firstIfd = 0 then pure ()
  else do
    pushTask ⟨firstIfd, .primary, 1⟩
    let walk : TiffWalk := ⟨headerOffset, containerEnd, byteOrder, origin⟩
    walkPending reader walk (walkRounds walk)

def parseInRange (reader : MetadataReader) (headerOffset containerEnd : Nat)
    (origin : TiffOrigin) : Parse Unit :=
  withLocals (walkContainer reader headerOffset containerEnd origin)

def parseDirect (reader : MetadataReader) : Parse Unit :=
  isolated (parseInRange reader 0 reader.sourceLen .direct)

end Tiff

end Guiying.Metadata
