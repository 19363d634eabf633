import Guiying.Metadata.Reader

/-!
# Finding the location of an item

The `iloc` box maps the items of a file to ranges of its bytes. The widths of its fields are in its
head. The search goes from item to item and skips the extents of the items it does not want.
-/

namespace Guiying.Metadata

open Guiying.Foundation Guiying.Foundation.ByteString

structure BoxHeader where
  offset : Nat
  boxType : BoxType
  payloadOffset : Nat
  endOffset : Nat
  deriving DecidableEq

/-- Absolute location of one item payload proven by `iloc`. -/
structure ItemLocation where
  offset : Nat
  length : Nat
  deriving DecidableEq

open Parse Program

def BoxHeader.payloadLen (header : BoxHeader) : Parse Nat :=
  checkedSub header.endOffset header.payloadOffset (some header.offset) "BMFF payload range"

/-! ## Fields at a cursor

Each of these returns what it read and the cursor behind it.
-/

section Take

variable (reader : MetadataReader) (cursor endOffset : Nat)

def takeBytes (length : Nat) (context : String) : Parse (List UInt8 × Nat) := do
  let next ← checkedAdd cursor length (some cursor) "BMFF table cursor overflow"
  ensure (next ≤ endOffset) (.outOfBounds cursor context)
  let bytes ← reader.readVec cursor length context
  pure (bytes, next)

def takeU16 (context : String) : Parse (Nat × Nat) := do
  let (bytes, next) ← takeBytes reader cursor endOffset 2 context
  pure (readBigEndian bytes, next)

def takeU32 (context : String) : Parse (Nat × Nat) := do
  let (bytes, next) ← takeBytes reader cursor endOffset 4 context
  pure (readBigEndian bytes, next)

/-- Width 0 reads nothing and yields 0. -/
def takeUint (size : Nat) (context : String) : Parse (Nat × Nat) :=
  if size = 0 then pure (0, cursor)
  else do
    let (bytes, next) ← takeBytes reader cursor endOffset size context
    let start ← orFail (.overflow (some next) "BMFF integer exceeds eight bytes")
      (MachineInt.checkedSub 8 bytes.length)
    pure (readBigEndian (List.replicate start 0 ++ bytes), next)

end Take

/-! ## The table -/

/-- The version of a table and the widths it declares. -/
structure IlocWidths where
  version : Nat
  offsetSize : Nat
  lengthSize : Nat
  baseOffsetSize : Nat
  indexSize : Nat

/-- The fields of an item in front of its extents. -/
structure IlocItemHead where
  itemId : Nat
  constructionMethod : Nat
  dataReferenceIndex : Nat
  baseOffset : Nat
  extentCount : Nat

def readWidths (head : List UInt8) (payloadOffset : Nat) : Parse IlocWidths := do
  let version := (head.getD 0 0).toNat
  ensure (version ≤ 2) (.unsupportedVersion payloadOffset "iloc version")
  let offsetSize := (head.getD 4 0 >>> 4).toNat
  let lengthSize := (head.getD 4 0 &&& 0x0f).toNat
  let baseOffsetSize := (head.getD 5 0 >>> 4).toNat
  let indexSize := if 1 ≤ version then (head.getD 5 0 &&& 0x0f).toNat else 0
  ensure ([offsetSize, lengthSize, baseOffsetSize, indexSize].all ([0, 4, 8].contains ·))
    (.invalid payloadOffset "iloc size field")
  pure ⟨version, offsetSize, lengthSize, baseOffsetSize, indexSize⟩

section Table

variable (reader : MetadataReader) (header : BoxHeader)

/-- The number of items, and the cursor of the first one. -/
def readItemCount (head : List UInt8) (version : Nat) : Parse (Nat × Nat) :=
  if version = 2 then do
    let countOffset ← checkedAdd header.payloadOffset 6 (some header.payloadOffset)
      "iloc item count offset overflow"
    let countEnd ← checkedAdd countOffset 4 (some countOffset) "iloc item count end overflow"
    ensure (countEnd ≤ header.endOffset) (.outOfBounds countOffset "iloc item count")
    let counted ← reader.readVec countOffset 4 "read iloc item count"
    pure (readBigEndian counted, countEnd)
  else do
    let cursor ← checkedAdd header.payloadOffset 8 (some header.payloadOffset)
      "iloc item table offset overflow"
    pure (readBigEndian (slice head 6 2), cursor)

variable (widths : IlocWidths)

def takeItemId (cursor : Nat) : Parse (Nat × Nat) :=
  if widths.version = 2 then takeU32 reader cursor header.endOffset "read iloc item id"
  else takeU16 reader cursor header.endOffset "read iloc item id"

def takeConstructionMethod (cursor : Nat) : Parse (Nat × Nat) :=
  if 1 ≤ widths.version then do
    let (field, next) ← takeU16 reader cursor header.endOffset "read iloc construction method"
    pure (field &&& 0x000f, next)
  else pure (0, cursor)

def takeItemHead (cursor : Nat) : Parse (IlocItemHead × Nat) := do
  let (itemId, cursor) ← takeItemId reader header widths cursor
  let (constructionMethod, cursor) ← takeConstructionMethod reader header widths cursor
  let (dataReferenceIndex, cursor) ←
    takeU16 reader cursor header.endOffset "read iloc data reference index"
  let (baseOffset, cursor) ←
    takeUint reader cursor header.endOffset widths.baseOffsetSize "read iloc base offset"
  let (extentCount, cursor) ← takeU16 reader cursor header.endOffset "read iloc extent count"
  pure (⟨itemId, constructionMethod, dataReferenceIndex, baseOffset, extentCount⟩, cursor)

def skipExtentIndex (cursor : Nat) : Parse Nat :=
  if 0 < widths.indexSize then do
    let (_, next) ←
      takeBytes reader cursor header.endOffset widths.indexSize "read iloc extent index"
    pure next
  else pure cursor

/-- The location of the one extent at the cursor. -/
def readExtent (itemOffset baseOffset cursor : Nat) : Parse ItemLocation := do
  let cursor ← skipExtentIndex reader header widths cursor
  let (extentOffset, cursor) ←
    takeUint reader cursor header.endOffset widths.offsetSize "read iloc extent offset"
  let (extentLength, _) ←
    takeUint reader cursor header.endOffset widths.lengthSize "read iloc extent length"
  ensure (extentLength ≠ 0) (.invalid itemOffset "Exif item extent has no length")
  let absolute ← checkedAdd baseOffset extentOffset (some itemOffset) "Exif item offset overflow"
  pure ⟨absolute, extentLength⟩

/-- The location of the wanted item, whose extents start at the cursor. -/
def readLocation (itemOffset : Nat) (item : IlocItemHead) (cursor : Nat) : Parse ItemLocation := do
  ensure (item.dataReferenceIndex = 0)
    (.invalid itemOffset "Exif item uses an external data reference")
  ensure (item.constructionMethod = 0)
    (.invalid itemOffset "unsupported Exif item construction method")
  ensure (item.extentCount = 1)
    (.invalid itemOffset "Exif item does not have exactly one extent")
  readExtent reader header widths itemOffset item.baseOffset cursor

/-- The cursor behind the extents of an item, without reading them. -/
def skipExtents (itemOffset extentCount cursor : Nat) : Parse Nat := do
  let widthsSum ← checkedAdd widths.indexSize widths.offsetSize (some itemOffset)
    "iloc extent width overflow"
  let perExtent ← checkedAdd widthsSum widths.lengthSize (some itemOffset)
    "iloc extent width overflow"
  let extentBytes ← checkedMul extentCount perExtent (some itemOffset)
    "iloc extent table overflow"
  let next ← checkedAdd cursor extentBytes (some itemOffset) "iloc cursor overflow"
  ensure (next ≤ header.endOffset) (.outOfBounds itemOffset "iloc extent table")
  pure next

/-- One turn of the search: the location of the item at the cursor, or the cursor behind it. -/
def searchItem (wantedItem cursor : Nat) : Parse (ItemLocation ⊕ Nat) := do
  reader.visitBmffBox cursor
  let (item, behind) ← takeItemHead reader header widths cursor
  if item.itemId = wantedItem then do
    let location ← readLocation reader header widths cursor item behind
    pure (.inl location)
  else do
    let next ← skipExtents header widths cursor item.extentCount behind
    pure (.inr next)

def searchItems (wantedItem : Nat) : Nat → Nat → Parse ItemLocation
  | 0, _ => fail (.invalid header.offset "Exif item location is missing")
  | count + 1, cursor => do
      match ← searchItem reader header widths wantedItem cursor with
      | .inl location => pure location
      | .inr next => searchItems wantedItem count next

end Table

def findItemLocation (reader : MetadataReader) (header : BoxHeader) (wantedItem : Nat) :
    Parse ItemLocation := do
  let payloadLength ← header.payloadLen
  ensure (8 ≤ payloadLength) (.outOfBounds header.payloadOffset "iloc header")
  let head ← reader.readVec header.payloadOffset 8 "read iloc header"
  let widths ← readWidths head header.payloadOffset
  let (itemCount, cursor) ← readItemCount reader header head widths.version
  searchItems reader header widths wantedItem itemCount cursor

end Guiying.Metadata
