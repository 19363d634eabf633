import Guiying.Metadata.HonestReads
import Guiying.Metadata.ItemLocation

/-!
# Item location tables

The format of an `iloc` table, and what the search finds in one: the location of the first item
with the wanted identifier, or an error. Other items are skipped by exactly their encoded size.
-/

namespace Guiying.Metadata

open Guiying.Foundation Guiying.Foundation.ByteString Guiying.Foundation.MachineInt

/-! ## The format -/

/-- The width of an offset, a length or an index. -/
inductive FieldSize where
  | absent
  | four
  | eight
  deriving DecidableEq

def FieldSize.bytes : FieldSize → Nat
  | .absent => 0
  | .four => 4
  | .eight => 8

/-- A version 0 table has no extent indexes; the bits of their width are reserved. -/
inductive IlocVersion where
  | zero (reserved : Fin 16)
  | one (indexSize : FieldSize)
  | two (indexSize : FieldSize)
  deriving DecidableEq

namespace IlocVersion

def number : IlocVersion → Nat
  | zero _ => 0
  | one _ => 1
  | two _ => 2

def lastNibble : IlocVersion → Nat
  | zero reserved => reserved
  | one indexSize | two indexSize => indexSize.bytes

def indexSize : IlocVersion → FieldSize
  | zero _ => .absent
  | one indexSize | two indexSize => indexSize

/-- The width of an item identifier, and of the number of items. -/
def idWidth : IlocVersion → Nat
  | two _ => 4
  | _ => 2

def methodWidth : IlocVersion → Nat
  | zero _ => 0
  | _ => 2

end IlocVersion

structure IlocExtent where
  index : Nat
  offset : Nat
  length : Nat
  deriving DecidableEq

structure IlocItem where
  itemId : Nat
  /-- The twelve bits in front of the construction method. -/
  reserved : Nat
  constructionMethod : Fin 16
  dataReferenceIndex : Nat
  baseOffset : Nat
  extents : List IlocExtent
  deriving DecidableEq

/-- The widths of the fields of a table. -/
structure IlocLayout where
  version : IlocVersion
  offsetSize : FieldSize
  lengthSize : FieldSize
  baseOffsetSize : FieldSize
  deriving DecidableEq

/-- A field can hold the value; a field of no width holds zero. -/
def FitsWidth (width value : Nat) : Prop := value < 256 ^ width

instance (width value : Nat) : Decidable (FitsWidth width value) :=
  inferInstanceAs (Decidable (value < 256 ^ width))

namespace IlocLayout

variable (layout : IlocLayout)

structure FitsExtent (extent : IlocExtent) : Prop where
  index : FitsWidth layout.version.indexSize.bytes extent.index
  offset : FitsWidth layout.offsetSize.bytes extent.offset
  length : FitsWidth layout.lengthSize.bytes extent.length

structure FitsItem (item : IlocItem) : Prop where
  itemId : FitsWidth layout.version.idWidth item.itemId
  method : FitsWidth layout.version.methodWidth (item.reserved * 16 + item.constructionMethod)
  dataReferenceIndex : FitsWidth 2 item.dataReferenceIndex
  baseOffset : FitsWidth layout.baseOffsetSize.bytes item.baseOffset
  extentCount : FitsWidth 2 item.extents.length
  extents : ∀ extent ∈ item.extents, layout.FitsExtent extent

def encodeExtent (extent : IlocExtent) : List UInt8 :=
  beBytes layout.version.indexSize.bytes extent.index ++
    (beBytes layout.offsetSize.bytes extent.offset ++
      beBytes layout.lengthSize.bytes extent.length)

def encodeItem (item : IlocItem) : List UInt8 :=
  beBytes layout.version.idWidth item.itemId ++
    (beBytes layout.version.methodWidth (item.reserved * 16 + item.constructionMethod) ++
      (beBytes 2 item.dataReferenceIndex ++
        (beBytes layout.baseOffsetSize.bytes item.baseOffset ++
          (beBytes 2 item.extents.length ++ item.extents.flatMap layout.encodeExtent))))

/-- The widths as the search keeps them. -/
def widths : IlocWidths where
  version := layout.version.number
  offsetSize := layout.offsetSize.bytes
  lengthSize := layout.lengthSize.bytes
  baseOffsetSize := layout.baseOffsetSize.bytes
  indexSize := layout.version.indexSize.bytes

def encodeHead (flags : List UInt8) : List UInt8 :=
  UInt8.ofNat layout.version.number ::
    (flags ++ [UInt8.ofNat (layout.offsetSize.bytes * 16 + layout.lengthSize.bytes),
      UInt8.ofNat (layout.baseOffsetSize.bytes * 16 + layout.version.lastNibble)])

end IlocLayout

/-- A table whose fields can hold what it says. -/
structure IlocTable where
  layout : IlocLayout
  flags : List UInt8
  items : List IlocItem
  flags_length : flags.length = 3
  itemCount : FitsWidth layout.version.idWidth items.length
  fits : ∀ item ∈ items, layout.FitsItem item

namespace IlocTable

variable (table : IlocTable)

def encodeItems (items : List IlocItem) : List UInt8 := items.flatMap table.layout.encodeItem

/-- The bytes in front of the items. -/
def preamble : List UInt8 :=
  table.layout.encodeHead table.flags ++
    beBytes table.layout.version.idWidth table.items.length

def encode : List UInt8 := table.preamble ++ table.encodeItems table.items

end IlocTable

namespace IlocItem

/-- What the search keeps of an item in front of its extents. -/
def head (item : IlocItem) : IlocItemHead :=
  ⟨item.itemId, item.constructionMethod, item.dataReferenceIndex, item.baseOffset,
    item.extents.length⟩

/-- The item is one range of the file itself. -/
def Locates (item : IlocItem) (location : ItemLocation) : Prop :=
  item.dataReferenceIndex = 0 ∧ item.constructionMethod = 0 ∧
    ∃ extent, item.extents = [extent] ∧ extent.length ≠ 0 ∧
      item.baseOffset + extent.offset < u64Bound ∧
      location = ⟨item.baseOffset + extent.offset, extent.length⟩

end IlocItem

/-! ## Fields -/

/-- The bytes stand at the cursor, in front of the end of a box inside the contents. -/
structure Boxed (contents : List UInt8) (endOffset cursor : Nat) (bytes : List UInt8) : Prop where
  stands : StandsAt contents cursor bytes
  inside : cursor + bytes.length ≤ endOffset
  box : endOffset ≤ contents.length

section Fields

variable {reader : BudgetedReader} {contents : List UInt8} {cursor endOffset : Nat}

theorem Boxed.left {first second : List UInt8}
    (boxed : Boxed contents endOffset cursor (first ++ second)) :
    Boxed contents endOffset cursor first where
  stands := boxed.stands.left
  inside := by
    have inside := boxed.inside
    rw [List.length_append] at inside
    omega
  box := boxed.box

theorem Boxed.right {first second : List UInt8}
    (boxed : Boxed contents endOffset cursor (first ++ second)) :
    Boxed contents endOffset (cursor + first.length) second where
  stands := boxed.stands.right
  inside := by
    have inside := boxed.inside
    rw [List.length_append] at inside
    omega
  box := boxed.box

/-- What follows a written number. -/
theorem Boxed.behind {width value : Nat} {second : List UInt8}
    (boxed : Boxed contents endOffset cursor (beBytes width value ++ second)) :
    Boxed contents endOffset (cursor + width) second := by
  simpa only [length_beBytes] using boxed.right

variable {value : Nat}

theorem fitsWidth_zero {value : Nat} : FitsWidth 0 value ↔ value = 0 := Nat.lt_one_iff

end Fields

/-! ## Items -/

section Items

variable {reader : BudgetedReader} {contents : List UInt8} {header : BoxHeader}
  {layout : IlocLayout} {item : IlocItem} {cursor : Nat}

namespace IlocLayout

variable (layout : IlocLayout) (item : IlocItem)

/-- The width of the fields in front of the extents. -/
def headWidth : Nat :=
  layout.version.idWidth + layout.version.methodWidth + 2 + layout.baseOffsetSize.bytes + 2

def extentWidth : Nat :=
  layout.version.indexSize.bytes + layout.offsetSize.bytes + layout.lengthSize.bytes

theorem length_encodeExtent (extent : IlocExtent) :
    (layout.encodeExtent extent).length = layout.extentWidth := by
  simp [encodeExtent, extentWidth, Nat.add_assoc]

theorem length_encodeItem :
    (layout.encodeItem item).length =
      layout.headWidth + item.extents.length * layout.extentWidth := by
  have extents : (item.extents.flatMap layout.encodeExtent).length =
      item.extents.length * layout.extentWidth := by
    rw [List.length_flatMap, List.map_congr_left fun extent _ => layout.length_encodeExtent extent,
      List.map_const', List.sum_replicate, nsmul_eq_mul, Nat.cast_id]
  simp only [encodeItem, List.length_append, length_beBytes, extents, headWidth]
  omega

end IlocLayout

variable {wantedItem : Nat}

end Items

/-! ## The head -/

section Head

variable {reader : BudgetedReader} {contents : List UInt8} {header : BoxHeader}
  {table : IlocTable}

theorem FieldSize.valid (size : FieldSize) : [0, 4, 8].contains size.bytes = true := by
  cases size <;> decide

theorem IlocVersion.idWidth_eq (version : IlocVersion) :
    version.idWidth = if version.number = 2 then 4 else 2 := by
  cases version <;> rfl

theorem IlocLayout.length_encodeHead (layout : IlocLayout) {flags : List UInt8}
    (three : flags.length = 3) : (layout.encodeHead flags).length = 6 := by
  simp [encodeHead, three]

end Head

/-! ## The search -/

/-- The `iloc` box of a table in a file. -/
def IlocTable.box (table : IlocTable) (offset : Nat) (boxType : BoxType)
    (before trailing : List UInt8) : BoxHeader where
  offset := offset
  boxType := boxType
  payloadOffset := before.length
  endOffset := before.length + (table.encode ++ trailing).length

section Search

variable {reader : BudgetedReader} {table : IlocTable} {before trailing after : List UInt8}

end Search

/-- A version 1 table of two items; the first has two extents. -/
def sampleTable : IlocTable where
  layout := ⟨.one .absent, .four, .four, .eight⟩
  flags := [0, 0, 0]
  items := [⟨7, 0, 0, 0, 0, [⟨0, 1, 2⟩, ⟨0, 3, 4⟩]⟩, ⟨9, 0, 0, 0, 16, [⟨0, 32, 5⟩]⟩]
  flags_length := rfl
  itemCount := by decide
  fits := by
    intro item member
    simp only [List.mem_cons, List.not_mem_nil, or_false] at member
    rcases member with rfl | rfl
    · refine ⟨by decide, by decide, by decide, by decide, by decide, fun extent member => ?_⟩
      simp only [List.mem_cons, List.not_mem_nil, or_false] at member
      rcases member with rfl | rfl <;> exact ⟨by decide, by decide, by decide⟩
    · refine ⟨by decide, by decide, by decide, by decide, by decide, fun extent member => ?_⟩
      simp only [List.mem_cons, List.not_mem_nil, or_false] at member
      subst member
      exact ⟨by decide, by decide, by decide⟩

def sampleFile : List UInt8 := [0xFF] ++ (sampleTable.encode ++ [1, 2]) ++ [3]

end Guiying.Metadata
