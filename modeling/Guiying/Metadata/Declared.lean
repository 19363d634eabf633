import Guiying.Metadata.Bmff
import Guiying.Metadata.IlocTable
import Guiying.Metadata.Jpeg

/-!
# What the bytes declare

The structures that the bytes of a file declare: boxes inside boxes, Exif segments between
markers, and the extent of an Exif item. A field is faithful when its bytes are those at its
locator, inside the structure that its locator names. No reader has a part in this.
-/

namespace Guiying.Metadata

open Guiying.Foundation Guiying.Foundation.ByteString

variable (contents : List UInt8)

/-! ## Boxes -/

/-- The length of the header of a box and the size of the box, by its size field. A size of 0
reaches to the end of the parent, a size of 1 stands for the number behind the type. -/
inductive BoxExtent (offset parentEnd : Nat) : (headerLength size : Nat) → Prop where
  | plain (size : readBigEndian (slice contents offset 4) ≠ 0)
      (short : readBigEndian (slice contents offset 4) ≠ 1) :
      BoxExtent offset parentEnd 8 (readBigEndian (slice contents offset 4))
  | extended (long : readBigEndian (slice contents offset 4) = 1) :
      BoxExtent offset parentEnd 16 (readBigEndian (slice contents (offset + 8) 8))
  | toEnd (rest : readBigEndian (slice contents offset 4) = 0) (inside : offset ≤ parentEnd) :
      BoxExtent offset parentEnd 8 (parentEnd - offset)

/-- The bytes declare the box in a parent that ends at `parentEnd`. A user type is part of the
header of its box. -/
structure DeclaresBox (parentEnd : Nat) (header : BoxHeader) : Prop where
  boxType : header.boxType.bytes = slice contents (header.offset + 4) 4
  extent : ∃ headerLength size, BoxExtent contents header.offset parentEnd headerLength size ∧
    header.payloadOffset =
      header.offset + (headerLength + if header.boxType = .uuid then 16 else 0) ∧
    header.endOffset = header.offset + size
  payload_le : header.payloadOffset ≤ header.endOffset
  inside : header.endOffset ≤ parentEnd

/-- The bytes declare the box at the end of a path of boxes, each in the payload of the one before
it. -/
inductive BoxAt : List BoxType → BoxHeader → Prop where
  | root {header : BoxHeader} (declared : DeclaresBox contents contents.length header) :
      BoxAt [header.boxType] header
  | child {path : List BoxType} {parent header : BoxHeader} (outer : BoxAt path parent)
      (behind : parent.payloadOffset ≤ header.offset)
      (declared : DeclaresBox contents parent.endOffset header) :
      BoxAt (path ++ [header.boxType]) header

variable {contents} in
/-- No box of a path reaches past the end of the file. -/
theorem BoxAt.endOffset_le {path : List BoxType} {header : BoxHeader}
    (boxAt : BoxAt contents path header) : header.endOffset ≤ contents.length := by
  induction boxAt with
  | root declared => exact declared.inside
  | child outer behind declared ih => exact declared.inside.trans ih

/-! ## Exif segments -/

/-- The bytes declare an Exif segment: the prefix of a marker, as often as it is repeated, the code
of the segment, its length and the Exif signature, in front of the header of a TIFF container. -/
structure DeclaresExif (app1Offset headerOffset segmentEnd : Nat) : Prop where
  marker : ∃ codeOffset, app1Offset < codeOffset ∧
    (∀ offset, app1Offset ≤ offset → offset < codeOffset →
      slice contents offset 1 = [Jpeg.markerPrefix]) ∧
    slice contents codeOffset 1 = [Jpeg.markerApp1] ∧
    segmentEnd = codeOffset + 1 + readBigEndian (slice contents (codeOffset + 1) 2) ∧
    slice contents (codeOffset + 3) 6 = Jpeg.exifSignature ∧ headerOffset = codeOffset + 9
  inside : segmentEnd ≤ contents.length

/-! ## Items -/

/-- An entry of the list of items names an Exif item. -/
structure DeclaresExifItem (itemId : Nat) : Prop where
  entry : ∃ entry version idBytes, BoxAt contents [.metaBox, .iinf, .infe] entry ∧
    (version = 2 ∧ idBytes = 2 ∨ version = 3 ∧ idBytes = 4) ∧
    entry.payloadOffset + (10 + idBytes) ≤ entry.endOffset ∧
    slice contents entry.payloadOffset 1 = [version] ∧
    itemId = readBigEndian (slice contents (entry.payloadOffset + 4) idBytes) ∧
    slice contents (entry.payloadOffset + (6 + idBytes)) 4 = asciiBytes "Exif"

/-- The first item of a location table with the identifier is one range of the file. -/
structure DeclaresLocation (itemId : Nat) (location : ItemLocation) : Prop where
  table : ∃ (header : BoxHeader) (layout : IlocLayout) (flags : List UInt8) (count : Nat)
    (before : List IlocItem) (item : IlocItem),
    BoxAt contents [.metaBox, .iloc] header ∧ flags.length = 3 ∧ before.length < count ∧
    (∀ other ∈ before, layout.FitsItem other ∧ other.itemId ≠ itemId) ∧ layout.FitsItem item ∧
    item.itemId = itemId ∧ item.Locates location ∧
    Boxed contents header.endOffset header.payloadOffset
      (layout.encodeHead flags ++ (beBytes layout.version.idWidth count ++
        (before.flatMap layout.encodeItem ++ layout.encodeItem item)))

/-! ## Fields -/

/-- The range lies inside the structure that the container names. -/
inductive DeclaresRange : MetadataContainer → (start stop : Nat) → Prop where
  | file {ifdOffset tag start stop : Nat} {byteOrder : TiffByteOrder}
      (inside : stop ≤ contents.length) :
      DeclaresRange (.tiff 0 ifdOffset tag byteOrder) start stop
  | item {itemId headerOffset ifdOffset tag start stop : Nat} {byteOrder : TiffByteOrder}
      {location : ItemLocation} (exif : DeclaresExifItem contents itemId)
      (located : DeclaresLocation contents itemId location)
      (header : headerOffset =
        location.offset + 4 + readBigEndian (slice contents location.offset 4))
      (behind : headerOffset ≤ start) (inside : stop ≤ location.offset + location.length) :
      DeclaresRange (.tiff headerOffset ifdOffset tag byteOrder) start stop
  | segment {app1Offset headerOffset segmentEnd ifdOffset tag start stop : Nat}
      {byteOrder : TiffByteOrder} (exif : DeclaresExif contents app1Offset headerOffset segmentEnd)
      (behind : headerOffset ≤ start) (inside : stop ≤ segmentEnd) :
      DeclaresRange (.jpegExif app1Offset headerOffset ifdOffset tag byteOrder) start stop
  | box {path : List BoxType} {header : BoxHeader} {start stop : Nat}
      (boxAt : BoxAt contents path header) (behind : header.payloadOffset ≤ start)
      (inside : stop ≤ header.endOffset) :
      DeclaresRange (.isoBmff header.offset path) start stop

/-- The bytes of the field are those at its locator, inside what the locator names. -/
structure MetadataField.FaithfulIn (field : MetadataField) : Prop where
  inside : field.locator.absoluteOffset + field.locator.byteLen ≤ contents.length
  length : field.locator.byteLen = field.rawBytes.length
  nonempty : 1 ≤ field.locator.byteLen
  bytes : field.rawBytes = slice contents field.locator.absoluteOffset field.locator.byteLen
  declared : DeclaresRange contents field.locator.container field.locator.absoluteOffset
    (field.locator.absoluteOffset + field.locator.byteLen)

end Guiying.Metadata
