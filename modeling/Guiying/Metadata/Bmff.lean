import Guiying.Foundation.Utf8
import Guiying.Metadata.ItemLocation
import Guiying.Metadata.Tiff

/-!
# The box walk

ISO-BMFF files are boxes, one behind the other, some of which hold boxes again. The walk looks for
the creation time of a movie, for the creation date among its metadata, and for the Exif item of a
still image. A box knows where it starts, that it is no shorter than its header, and that it ends
inside the range it was found in.
-/

namespace Guiying.Metadata

open Guiying.Foundation Guiying.Foundation.ByteString Parse Program

namespace BoxType

def ofBytes (bytes : List UInt8) : BoxType :=
  ⟨bytes.getD 0 0, bytes.getD 1 0, bytes.getD 2 0, bytes.getD 3 0⟩

def uuid : BoxType := ofChars 'u' 'u' 'i' 'd'
def hdlr : BoxType := ofChars 'h' 'd' 'l' 'r'
def iinf : BoxType := ofChars 'i' 'i' 'n' 'f'
def iloc : BoxType := ofChars 'i' 'l' 'o' 'c'
def infe : BoxType := ofChars 'i' 'n' 'f' 'e'
def keys : BoxType := ofChars 'k' 'e' 'y' 's'

end BoxType

namespace Bmff

def boxHeaderBytes : Nat := 8
def extendedBoxHeaderBytes : Nat := 16
def uuidUserTypeBytes : Nat := 16
def fullBoxHeaderBytes : Nat := 4
def quicktimeDataHeaderBytes : Nat := 8
def handlerHeaderBytes : Nat := 12
def exifItemPrefixBytes : Nat := 4
def creationDateKey : List UInt8 := asciiBytes "com.apple.quicktime.creationdate"

inductive WalkContext where
  | root
  | movie
  | userData
  deriving DecidableEq

/-- A box found at an offset of a range that ends at `parentEnd`. -/
structure BoxIn (offset parentEnd : Nat) where
  header : BoxHeader
  starts : header.offset = offset
  header_le : offset + boxHeaderBytes ≤ header.payloadOffset
  payload_le : header.payloadOffset ≤ header.endOffset
  inside : header.endOffset ≤ parentEnd

/-! ## Box headers -/

def headerSize (extended : Bool) (boxType : BoxType) : Nat :=
  (if extended then extendedBoxHeaderBytes else boxHeaderBytes) +
    if boxType = .uuid then uuidUserTypeBytes else 0

theorem boxHeaderBytes_le (extended : Bool) (boxType : BoxType) :
    boxHeaderBytes ≤ headerSize extended boxType := by
  unfold headerSize
  refine Nat.le_add_right_of_le ?_
  cases extended <;> decide

/-- The payload starts before the end, so its offset does not overflow either. -/
def boxWithin (offset parentEnd : Nat) (boxType : BoxType) (extended : Bool) (size : Nat) :
    Parse (BoxIn offset parentEnd) :=
  if small : size < headerSize extended boxType then
    fail (.invalid offset "BMFF box size smaller than header")
  else if MachineInt.u64Bound ≤ offset + size then
    fail (.overflow (some offset) "BMFF box end overflow")
  else if outside : parentEnd < offset + size then
    fail (.outOfBounds offset "BMFF box exceeds parent")
  else
    pure {
      header := ⟨offset, boxType, offset + headerSize extended boxType, offset + size⟩
      starts := rfl
      header_le := Nat.add_le_add_left (boxHeaderBytes_le extended boxType) offset
      payload_le := Nat.add_le_add_left (Nat.le_of_not_lt small) offset
      inside := Nat.le_of_not_lt outside }

section Walk

variable (reader : MetadataReader)

/-- The declared size, and whether it took an extended header. Size 0 reaches to the end. -/
def boxSize (offset parentEnd minimumEnd size32 : Nat) : Parse (Nat × Bool) :=
  if size32 = 0 then do
    let size ← checkedSub parentEnd offset (some offset) "BMFF size-zero box range"
    pure (size, false)
  else if size32 = 1 then do
    let extendedEnd ← checkedAdd minimumEnd 8 (some offset) "BMFF extended header end overflow"
    ensure (extendedEnd ≤ parentEnd) (.outOfBounds offset "truncated BMFF extended-size header")
    let extended ← reader.readVec minimumEnd 8 "read BMFF extended-size box header"
    pure (readBigEndian extended, true)
  else pure (size32, false)

def readBoxHeader (offset parentEnd : Nat) : Parse (BoxIn offset parentEnd) := do
  ensure (offset < parentEnd) (.outOfBounds offset "BMFF box header")
  let minimumEnd ← checkedAdd offset boxHeaderBytes (some offset) "BMFF header end overflow"
  ensure (minimumEnd ≤ parentEnd) (.outOfBounds offset "truncated BMFF box header")
  let basic ← reader.readVec offset boxHeaderBytes "read BMFF box header"
  reader.visitBmffBox offset
  let (size, extended) ← boxSize reader offset parentEnd minimumEnd (readBigEndian (basic.take 4))
  boxWithin offset parentEnd (.ofBytes (basic.drop 4)) extended size

/-- The loop over the boxes of a range: every box adds to what was made of those before it. -/
def forBoxes {α : Type} (visit : BoxHeader → α → Parse α) (cursor stop : Nat) (found : α) :
    Parse α :=
  if _inFront : cursor < stop then do
    let box ← readBoxHeader reader cursor stop
    let found ← visit box.header found
    forBoxes visit box.header.endOffset stop found
  else pure found
termination_by stop - cursor
decreasing_by
  have header := box.header_le
  have payload := box.payload_le
  simp only [boxHeaderBytes] at header
  omega

/-- The loop over the boxes of a range that ends with the first box that has a result. -/
def findInBoxes {α : Type} (visit : BoxHeader → Parse (Option α)) (cursor stop : Nat) :
    Parse (Option α) :=
  if _inFront : cursor < stop then do
    let box ← readBoxHeader reader cursor stop
    match ← visit box.header with
    | some found => pure (some found)
    | none => findInBoxes visit box.header.endOffset stop
  else pure none
termination_by stop - cursor
decreasing_by
  have header := box.header_le
  have payload := box.payload_le
  simp only [boxHeaderBytes] at header
  omega

def observeNesting (depth offset : Nat) : Parse Unit :=
  reader.observeDepth depth reader.limits.maxBmffDepth offset "BMFF nesting depth limit"

def deeper (depth offset : Nat) (context : String) : Parse Nat :=
  orFail (.overflow (some offset) context) (MachineInt.checkedAdd MachineInt.u16Bound depth 1)

/-! ## Movie metadata -/

/-- Where the children of a `meta` box begin. A handler right at the start of the payload shows
the QuickTime dialect, which has no version and flags in front of it. -/
def metaChildrenStart (header : BoxHeader) : Parse Nat := do
  let payloadLen ← header.payloadLen
  if boxHeaderBytes ≤ payloadLen then do
    let probe ← reader.readVec header.payloadOffset boxHeaderBytes "probe meta dialect"
    if slice probe 4 4 = asciiBytes "hdlr" then pure header.payloadOffset
    else do
      ensure (probe.getD 0 0 = 0) (.unsupportedVersion header.payloadOffset "meta version")
      checkedAdd header.payloadOffset fullBoxHeaderBytes (some header.payloadOffset)
        "meta children offset overflow"
  else if fullBoxHeaderBytes ≤ payloadLen then do
    let versionFlags ← reader.readVec header.payloadOffset fullBoxHeaderBytes
      "read meta full-box header"
    ensure (versionFlags.getD 0 0 = 0) (.unsupportedVersion header.payloadOffset "meta version")
    checkedAdd header.payloadOffset fullBoxHeaderBytes (some header.payloadOffset)
      "meta children offset overflow"
  else fail (.outOfBounds header.payloadOffset "meta full-box header")

def boxField (kind : MetadataFieldKind) (encoding : FieldEncoding) (offset length : Nat)
    (boxOffset : Nat) (boxPath : List BoxType) (rawBytes : List UInt8) : MetadataField where
  parser := parserIdentity
  kind := kind
  encoding := encoding
  locator := ⟨offset, length, .isoBmff boxOffset boxPath⟩
  rawBytes := rawBytes

/-- The offset and length of the creation time in the payload, and how long that must be. -/
def mvhdLayout (header : BoxHeader) (version : UInt8) : Parse (Nat × Nat × Nat) :=
  if version = 0 then pure (4, 4, 20)
  else if version = 1 then pure (4, 8, 32)
  else fail (.unsupportedVersion header.payloadOffset "mvhd version")

def parseMvhd (header : BoxHeader) (path : List BoxType) : Parse Unit := do
  let payloadLen ← header.payloadLen
  ensure (fullBoxHeaderBytes ≤ payloadLen)
    (.outOfBounds header.payloadOffset "mvhd full-box header")
  let head ← reader.readVec header.payloadOffset fullBoxHeaderBytes "read mvhd full-box header"
  let (valueDelta, valueLength, minimumPayload) ← mvhdLayout header (head.getD 0 0)
  ensure (minimumPayload ≤ payloadLen) (.outOfBounds header.payloadOffset "mvhd payload")
  let valueOffset ← checkedAdd header.payloadOffset valueDelta (some header.payloadOffset)
    "mvhd creation-time offset overflow"
  let rawBytes ← reader.readFieldBytes valueOffset valueLength
  pushField (boxField .quickTimeMovieHeaderCreationTime .unsignedBigEndian valueOffset valueLength
    header.offset path rawBytes)

/-- Whether the key at the cursor is the creation date, from the head of its entry. -/
def isCreationDate (cursor : Nat) (entryHeader : List UInt8) (keyLength : Nat) : Parse Bool :=
  if slice entryHeader 4 4 = asciiBytes "mdta" ∧ keyLength = creationDateKey.length then do
    let keyOffset ← checkedAdd cursor 8 (some cursor) "QuickTime key bytes offset overflow"
    let key ← reader.readVec keyOffset keyLength "read QuickTime key bytes"
    pure (key = creationDateKey)
  else pure false

/-- The key at the cursor, and the cursor behind it. -/
def parseKey (header : BoxHeader) (cursor : Nat) : Parse (Bool × Nat) := do
  reader.visitBmffBox cursor
  let entryHeaderEnd ← checkedAdd cursor 8 (some cursor) "QuickTime key entry header end overflow"
  ensure (entryHeaderEnd ≤ header.endOffset) (.outOfBounds cursor "QuickTime key entry header")
  let entryHeader ← reader.readVec cursor 8 "read QuickTime key entry"
  let entrySize := readBigEndian (entryHeader.take 4)
  ensure (8 ≤ entrySize) (.invalid cursor "QuickTime key entry size")
  let entryEnd ← checkedAdd cursor entrySize (some cursor) "QuickTime key entry end overflow"
  ensure (entryEnd ≤ header.endOffset) (.outOfBounds cursor "QuickTime key entry")
  let keyLength ← checkedSub entrySize 8 (some cursor) "QuickTime key entry payload"
  let recognized ← isCreationDate reader cursor entryHeader keyLength
  pure (recognized, entryEnd)

def parseKeyEntries (header : BoxHeader) : Nat → Nat → List Bool → Parse (List Bool × Nat)
  | 0, cursor, recognized => pure (recognized, cursor)
  | count + 1, cursor, recognized => do
      let (key, next) ← parseKey reader header cursor
      parseKeyEntries header count next (recognized ++ [key])

def parseKeys (header : BoxHeader) : Parse (List Bool) := do
  let payloadLen ← header.payloadLen
  ensure (8 ≤ payloadLen) (.outOfBounds header.payloadOffset "keys full-box payload")
  let head ← reader.readVec header.payloadOffset 8 "read keys header"
  ensure (head.getD 0 0 = 0) (.unsupportedVersion header.payloadOffset "keys version")
  let count := readBigEndian (slice head 4 4)
  ensure (count ≤ reader.limits.maxBmffBoxes)
    (.limit (some header.payloadOffset) "QuickTime metadata key count limit")
  let start ← checkedAdd header.payloadOffset 8 (some header.payloadOffset)
    "keys entry offset overflow"
  let (recognized, cursor) ← parseKeyEntries reader header count start []
  ensure (cursor = header.endOffset) (.invalid cursor "trailing bytes in QuickTime keys box")
  pure recognized

/-- One box of a metadata item: the creation date as text, or something else. -/
def parseData (path : List BoxType) (data : BoxHeader) (_ : Unit) : Parse Unit :=
  if data.boxType = .data then do
    let payloadLen ← data.payloadLen
    ensure (quicktimeDataHeaderBytes < payloadLen)
      (.invalid data.payloadOffset "QuickTime data atom payload")
    let dataHeader ← reader.readVec data.payloadOffset quicktimeDataHeaderBytes
      "read QuickTime data header"
    ensure (readBigEndian (dataHeader.take 4) = 1)
      (.invalid data.payloadOffset "QuickTime creation date is not UTF-8 text")
    let valueOffset ← checkedAdd data.payloadOffset quicktimeDataHeaderBytes
      (some data.payloadOffset) "QuickTime text offset overflow"
    let valueLength ← checkedSub data.endOffset valueOffset (some valueOffset)
      "QuickTime text range"
    let rawBytes ← reader.readFieldBytes valueOffset valueLength
    ensure (Utf8.valid rawBytes)
      (.invalid valueOffset "QuickTime creation date contains invalid UTF-8")
    pushField (boxField .quickTimeMetadataCreationDate .validatedUtf8 valueOffset valueLength
      data.offset (path ++ [.data]) rawBytes)
  else pure ()

def parseMetadataItem (item : BoxHeader) (parentDepth : Nat) (path : List BoxType) :
    Parse Unit := do
  let depth ← deeper parentDepth item.offset "BMFF depth overflow"
  observeNesting reader depth item.payloadOffset
  forBoxes reader (parseData reader path) item.payloadOffset item.endOffset ()

/-- Whether the type of an item is the number of a recognized key, from 1 on. -/
def recognizedIndex (recognizedKeys : List Bool) (boxType : BoxType) : Bool :=
  match MachineInt.checkedSub (readBigEndian boxType.bytes) 1 with
  | none => false
  | some index => recognizedKeys.getD index false

def parseItem (depth : Nat) (recognizedKeys : List Bool) (path : List BoxType) (item : BoxHeader)
    (_ : Unit) : Parse Unit :=
  if item.boxType = .copyrightDay ∨ recognizedIndex recognizedKeys item.boxType then
    parseMetadataItem reader item depth (path ++ [item.boxType])
  else pure ()

def parseIlst (header : BoxHeader) (parentDepth : Nat) (recognizedKeys : List Bool)
    (path : List BoxType) : Parse Unit := do
  let depth ← deeper parentDepth header.offset "BMFF depth overflow"
  observeNesting reader depth header.payloadOffset
  forBoxes reader (parseItem reader depth recognizedKeys path) header.payloadOffset
    header.endOffset ()

def readChildren (cursor stop : Nat) : Parse (List BoxHeader) :=
  forBoxes reader (fun child children => pure (children ++ [child])) cursor stop []

/-- The keys of the first child that has any. -/
def recognizedKeysOf (children : List BoxHeader) : Parse (List Bool) :=
  match children.find? (·.boxType = .keys) with
  | none => pure []
  | some child => parseKeys reader child

def parseIlsts (depth : Nat) (recognizedKeys : List Bool) (path : List BoxType) :
    List BoxHeader → Parse Unit
  | [] => pure ()
  | child :: children => do
      if child.boxType = .ilst then
        parseIlst reader child depth recognizedKeys (path ++ [.ilst])
      else pure ()
      parseIlsts depth recognizedKeys path children

def parseMeta (header : BoxHeader) (parentDepth : Nat) (path : List BoxType) : Parse Unit := do
  let childrenStart ← metaChildrenStart reader header
  let childDepth ← deeper parentDepth header.offset "BMFF depth overflow"
  observeNesting reader childDepth childrenStart
  let children ← readChildren reader childrenStart header.endOffset
  let recognizedKeys ← recognizedKeysOf reader children
  parseIlsts reader childDepth recognizedKeys path children

/-- The value of a date box from before the metadata lists. -/
def parseLegacyCopyrightDay (header : BoxHeader) (path : List BoxType) : Parse Unit := do
  let payloadLen ← header.payloadLen
  ensure (4 ≤ payloadLen) (.outOfBounds header.payloadOffset "legacy QuickTime date header")
  let head ← reader.readVec header.payloadOffset 4 "read legacy QuickTime date header"
  let valueLength := readBigEndian (head.take 2)
  ensure (valueLength ≠ 0) (.invalid header.payloadOffset "empty legacy QuickTime creation date")
  let valueOffset ← checkedAdd header.payloadOffset 4 (some header.payloadOffset)
    "legacy QuickTime date offset overflow"
  let valueEnd ← checkedAdd valueOffset valueLength (some valueOffset)
    "legacy QuickTime date end overflow"
  ensure (valueEnd ≤ header.endOffset)
    (.outOfBounds valueOffset "legacy QuickTime creation date")
  let rawBytes ← reader.readFieldBytes valueOffset valueLength
  ensure (Utf8.valid rawBytes)
    (.invalid valueOffset "legacy QuickTime creation date contains invalid UTF-8")
  pushField (boxField .quickTimeMetadataCreationDate .validatedUtf8 valueOffset valueLength
    header.offset path rawBytes)

/-! ## Still images -/

def readHandlerType (header : BoxHeader) : Parse (Option (List UInt8)) := do
  let payloadLen ← header.payloadLen
  if payloadLen < handlerHeaderBytes then pure none
  else do
    let head ← reader.readVec header.payloadOffset handlerHeaderBytes "read hdlr header"
    pure (some (slice head 8 4))

/-- An entry of the item list: the identifier, the protection index and the type of an item. -/
structure ItemEntry where
  itemId : Nat
  protectionIndex : Nat
  itemType : List UInt8

/-- The entry of a version that names its item's type. -/
def readItemEntry (entry : BoxHeader) (payloadLen length idBytes : Nat) : Parse ItemEntry := do
  ensure (length ≤ payloadLen) (.outOfBounds entry.payloadOffset "infe entry")
  let body ← reader.readVec entry.payloadOffset length "read infe entry"
  pure {
    itemId := readBigEndian (slice body 4 idBytes)
    protectionIndex := readBigEndian (slice body (4 + idBytes) 2)
    itemType := slice body (6 + idBytes) 4 }

/-- Versions 0 and 1 carry no item type, so they can never be `Exif`. -/
def readTypedEntry (entry : BoxHeader) (payloadLen : Nat) (version : UInt8) :
    Parse (Option ItemEntry) :=
  if version = 0 ∨ version = 1 then pure none
  else if version = 2 then do
    let item ← readItemEntry reader entry payloadLen 12 2
    pure (some item)
  else if version = 3 then do
    let item ← readItemEntry reader entry payloadLen 14 4
    pure (some item)
  else fail (.unsupportedVersion entry.payloadOffset "infe version")

def exifItemId (entry : BoxHeader) : Parse (Option Nat) := do
  let payloadLen ← entry.payloadLen
  ensure (fullBoxHeaderBytes ≤ payloadLen)
    (.outOfBounds entry.payloadOffset "infe full-box header")
  let head ← reader.readVec entry.payloadOffset fullBoxHeaderBytes "read infe header"
  match ← readTypedEntry reader entry payloadLen (head.getD 0 0) with
  | none => pure none
  | some item =>
      if item.itemType = asciiBytes "Exif" then do
        ensure (item.protectionIndex = 0) (.invalid entry.payloadOffset "protected Exif item")
        pure (some item.itemId)
      else pure none

def itemCountBytes (header : BoxHeader) (version : UInt8) : Parse Nat :=
  if version = 0 then pure 2
  else if version = 1 then pure 4
  else fail (.unsupportedVersion header.payloadOffset "iinf version")

def visitItemInfo (entry : BoxHeader) : Parse (Option Nat) :=
  if entry.boxType = .infe then exifItemId reader entry else pure none

def findExifItem (header : BoxHeader) : Parse (Option Nat) := do
  let payloadLen ← header.payloadLen
  ensure (fullBoxHeaderBytes ≤ payloadLen)
    (.outOfBounds header.payloadOffset "iinf full-box header")
  let head ← reader.readVec header.payloadOffset fullBoxHeaderBytes "read iinf header"
  let countBytes ← itemCountBytes header (head.getD 0 0)
  let headerBytes ← checkedAdd fullBoxHeaderBytes countBytes (some header.payloadOffset)
    "iinf header length overflow"
  let entriesStart ← checkedAdd header.payloadOffset headerBytes (some header.payloadOffset)
    "iinf entry offset overflow"
  ensure (entriesStart ≤ header.endOffset) (.outOfBounds header.payloadOffset "iinf entry table")
  findInBoxes reader (visitItemInfo reader) entriesStart header.endOffset

/-- An item payload is the offset of its TIFF header, counted from behind the offset, and that. -/
def extractExifItem (location : ItemLocation) : Parse Unit := do
  let stop ← checkedAdd location.offset location.length (some location.offset)
    "Exif item range overflow"
  ensure (stop ≤ reader.sourceLen) (.outOfBounds location.offset "Exif item extent")
  ensure (exifItemPrefixBytes < location.length)
    (.invalid location.offset "Exif item payload is too small")
  let head ← reader.readVec location.offset exifItemPrefixBytes "read Exif item header offset"
  let afterPrefix ← checkedAdd location.offset exifItemPrefixBytes (some location.offset)
    "Exif item prefix overflow"
  let tiffHeader ← checkedAdd afterPrefix (readBigEndian head) (some location.offset)
    "Exif TIFF header offset overflow"
  ensure (tiffHeader < stop)
    (.invalid location.offset "Exif TIFF header offset is outside the item")
  Tiff.parseInRange reader tiffHeader stop .direct

/-- What a `meta` box of the file itself says about its items. -/
structure MetaItems where
  handlerType : Option (List UInt8) := none
  itemInfo : Option BoxHeader := none
  itemLocation : Option BoxHeader := none

/-- The first box of each kind counts; a handler too short to name a type does not. -/
def collectItems (child : BoxHeader) (items : MetaItems) : Parse MetaItems :=
  if child.boxType = .hdlr ∧ items.handlerType.isNone then do
    let handlerType ← readHandlerType reader child
    pure { items with handlerType }
  else if child.boxType = .iinf ∧ items.itemInfo.isNone then
    pure { items with itemInfo := some child }
  else if child.boxType = .iloc ∧ items.itemLocation.isNone then
    pure { items with itemLocation := some child }
  else pure items

/-- The Exif item at the location its identifier has. -/
def extractItem (header : BoxHeader) (itemLocation : Option BoxHeader) (exifItem : Nat) :
    Parse Unit :=
  match itemLocation with
  | none => fail (.invalid header.offset "Exif item has no location box")
  | some locationBox => do
      let location ← findItemLocation reader locationBox exifItem
      extractExifItem reader location

def extractListed (header : BoxHeader) (itemLocation : Option BoxHeader) (info : BoxHeader) :
    Parse Unit := do
  match ← findExifItem reader info with
  | none => pure ()
  | some exifItem => extractItem reader header itemLocation exifItem

def parseRootMeta (header : BoxHeader) (parentDepth : Nat) : Parse Unit := do
  let childrenStart ← metaChildrenStart reader header
  let childDepth ← deeper parentDepth header.offset "BMFF depth overflow"
  observeNesting reader childDepth childrenStart
  let items ← forBoxes reader (collectItems reader) childrenStart header.endOffset {}
  if items.handlerType = some (asciiBytes "pict") then
    match items.itemInfo with
    | none => pure ()
    | some info => extractListed reader header items.itemLocation info
  else pure ()

/-! ## The walk -/

/-- The context of the children a box is walked for, if it is. -/
def childContext (context : WalkContext) (boxType : BoxType) : Option WalkContext :=
  match context with
  | .root => if boxType = .moov then some .movie else none
  | .movie => if boxType = .udta then some .userData else none
  | .userData => none

/-- A box that is read, not walked. -/
def handleBox (context : WalkContext) (header : BoxHeader) (depth : Nat) (path : List BoxType) :
    Parse Unit :=
  match context with
  | .root => if header.boxType = .metaBox then parseRootMeta reader header depth else pure ()
  | .movie =>
      if header.boxType = .mvhd then parseMvhd reader header path
      else if header.boxType = .metaBox then parseMeta reader header depth path
      else pure ()
  | .userData =>
      if header.boxType = .metaBox then parseMeta reader header depth path
      else if header.boxType = .copyrightDay then parseLegacyCopyrightDay reader header path
      else pure ()

mutual

/-- The boxes of a range, each isolated from the others. Where one has no proper header, those
behind it cannot be found, and the rest is left. -/
def walkBoxes (cursor stop depth : Nat) (context : WalkContext) (path : List BoxType) :
    Parse Unit :=
  if _inFront : cursor < stop then do
    match ← attempt (readBoxHeader reader cursor stop) with
    | .error error => isolate (.error error)
    | .ok box =>
        let boxPath := path ++ [box.header.boxType]
        isolated
          (match childContext context box.header.boxType with
          | some child => do
              let childDepth ← deeper depth box.header.offset "BMFF nesting depth overflow"
              walkRange box.header.payloadOffset box.header.endOffset childDepth child boxPath
          | none => handleBox reader context box.header depth boxPath)
        walkBoxes box.header.endOffset stop depth context path
  else pure ()
termination_by (stop - cursor, 0)
decreasing_by
  · have header := box.header_le
    have payload := box.payload_le
    have inside := box.inside
    simp only [boxHeaderBytes] at header
    exact Prod.Lex.left _ _ (by omega)
  · have header := box.header_le
    have payload := box.payload_le
    simp only [boxHeaderBytes] at header
    exact Prod.Lex.left _ _ (by omega)

def walkRange (start stop depth : Nat) (context : WalkContext) (path : List BoxType) :
    Parse Unit := do
  observeNesting reader depth start
  walkBoxes start stop depth context path
termination_by (stop - start, 1)
decreasing_by exact Prod.Lex.right _ (by decide)

end

def parse : Parse Unit := walkRange reader 0 reader.sourceLen 1 .root []

end Walk

end Bmff

end Guiying.Metadata
