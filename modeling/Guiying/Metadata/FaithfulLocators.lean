import Guiying.Metadata.EmittedItems
import Guiying.Metadata.Extract

/-!
# Locators are faithful

Whatever the bytes of a file are and however short its reads, every field of a report holds the
bytes at its locator, and these lie in the Exif segment, the item or the box that the locator
names.
-/

namespace Guiying.Metadata

open Guiying.Foundation Guiying.Foundation.ByteString Guiying.Foundation.MachineInt Parse Program

/-! ## Segments -/

namespace Jpeg

section Scan

variable {reader : BudgetedReader} {contents : List UInt8}

theorem slice_one {offset : Nat} (inside : offset + 1 ≤ contents.length) :
    slice contents offset 1 = [(slice contents offset 1).headD 0] := by
  have one := length_slice inside
  match slice contents offset 1, one with
  | [byte], _ => rfl

theorem emits_visitJpegSegment (offset : Nat) :
    Emits contents (reader.visitJpegSegment offset) fun _ => True :=
  emits_usage.next fun _ => under_orFail.next fun _ => emits_setUsage.next fun _ =>
    under_ensure.imp fun _ _ => trivial

/-- The bytes in front of a code are prefixes. -/
theorem emits_readCode (honest : Honest reader contents) :
    ∀ rounds cursor, Emits contents (readCode reader rounds cursor) fun found =>
      cursor < found.2 ∧
      (∀ offset, cursor < offset → offset < found.2 → slice contents offset 1 = [markerPrefix]) ∧
      slice contents found.2 1 = [found.1]
  | 0, cursor => emits_checkedAdd.next fun _ => under_fail
  | rounds + 1, cursor => by
      refine emits_checkedAdd.bind fun next is => ?_
      subst is
      refine under_ensure.next fun _ => (emits_readVec honest _ 1 _).bind fun bytes read => ?_
      obtain ⟨rfl, inside⟩ := read
      have byte := slice_one inside
      dsimp only
      split
      · rename_i fill
        refine (emits_readCode honest rounds (cursor + 1)).imp fun found holds => ?_
        obtain ⟨behind, fills, code⟩ := holds
        refine ⟨by omega, fun offset past before => ?_, code⟩
        rcases Nat.lt_or_ge (cursor + 1) offset with later | now
        · exact fills offset later before
        · rw [show offset = cursor + 1 by omega, byte, fill]
      · refine under_ensure.next fun _ => under_pure ⟨by omega, fun offset past before => ?_, byte⟩
        dsimp only at before
        omega

/-- Where the code of a marker is, and that only prefixes are in front of it. -/
structure MarkerAt (contents : List UInt8) (cursor : Nat) (code : UInt8) (codeOffset : Nat) :
    Prop where
  behind : cursor < codeOffset
  prefixes : ∀ offset, cursor ≤ offset → offset < codeOffset →
    slice contents offset 1 = [markerPrefix]
  code : slice contents codeOffset 1 = [code]

theorem emits_readMarker (honest : Honest reader contents) (cursor : Nat) :
    Emits contents (readMarker reader cursor) fun found =>
      MarkerAt contents cursor found.1 found.2.1 ∧ found.2.2 = found.2.1 + 1 := by
  refine under_ensure.next fun _ => (emits_readVec honest cursor 1 _).bind fun bytes read => ?_
  obtain ⟨rfl, inside⟩ := read
  refine emits_ensure.bind fun _ first => ?_
  refine (emits_readCode honest _ cursor).bind fun found holds => ?_
  obtain ⟨behind, fills, code⟩ := holds
  refine emits_checkedAdd.bind fun next is => ?_
  refine (emits_visitJpegSegment cursor).next fun _ => ?_
  refine under_pure ⟨⟨behind, fun offset past before => ?_, code⟩, is⟩
  rcases Nat.lt_or_ge cursor offset with later | now
  · exact fills offset later before
  · rw [show offset = cursor by omega, slice_one inside, first]

/-- A segment declares its length and ends inside the file. -/
theorem emits_segmentBounds (honest : Honest reader contents) (cursor : Nat) :
    Emits contents (segmentBounds reader cursor) fun found =>
      found.1 = cursor + 2 ∧ found.2.2 = cursor + readBigEndian (slice contents cursor 2) ∧
      found.2.2 ≤ contents.length := by
  refine (emits_readVec honest cursor 2 _).bind fun bytes read => ?_
  obtain ⟨rfl, -⟩ := read
  refine emits_ensure.bind fun _ long => emits_checkedAdd.bind fun payloadOffset begun => ?_
  refine emits_checkedSub.bind fun payloadLength rest => ?_
  refine emits_checkedAdd.bind fun segmentEnd ended => emits_ensure.bind fun _ inside => ?_
  rw [honest.sourceLen] at inside
  refine under_pure ⟨begun, ?_, inside⟩
  dsimp only
  omega

variable {cursor codeOffset : Nat} {code : UInt8}

theorem emits_readExif (honest : Honest reader contents)
    (markerAt : MarkerAt contents cursor code codeOffset) {payloadOffset segmentEnd : Nat}
    (begun : payloadOffset = codeOffset + 1 + 2)
    (ended : segmentEnd = codeOffset + 1 + readBigEndian (slice contents (codeOffset + 1) 2))
    (inside : segmentEnd ≤ contents.length) (payloadLength : Nat) :
    Emits contents (readExif reader cursor code payloadOffset payloadLength segmentEnd)
      fun _ => True := by
  unfold readExif
  split
  · rename_i app1
    refine (emits_readVec honest payloadOffset 6 _).bind fun signature read => ?_
    obtain ⟨rfl, -⟩ := read
    split
    · rename_i signed
      refine emits_checkedAdd.bind fun headerOffset header => ?_
      have exif : DeclaresExif contents cursor headerOffset segmentEnd := {
        marker := ⟨codeOffset, markerAt.behind, markerAt.prefixes, app1.1 ▸ markerAt.code, ended,
          by rw [← signed, begun], by omega⟩
        inside := inside }
      exact emits_isolated (Tiff.emits_parseInRange (readsFrom_of_honest honest) fun byteOrder => {
        inside := inside
        range := fun _ _ _ _ behind before => .segment exif behind before })
    · exact under_pure trivial
  · exact under_pure trivial

theorem emits_scanMarkers (honest : Honest reader contents) :
    ∀ rounds cursor, Emits contents (scanMarkers reader rounds cursor) fun _ => True
  | 0, _ => under_fail
  | rounds + 1, cursor => by
      refine (emits_readMarker honest cursor).bind fun found holds => ?_
      obtain ⟨code, codeOffset, next⟩ := found
      obtain ⟨markerAt, behind⟩ := holds
      dsimp only at markerAt behind ⊢
      subst behind
      split
      · exact under_pure trivial
      · split
        · exact emits_scanMarkers honest rounds _
        · split
          · exact under_fail
          · refine (emits_segmentBounds honest (codeOffset + 1)).bind fun bounds within => ?_
            obtain ⟨begun, ended, inside⟩ := within
            exact (emits_readExif honest markerAt begun ended inside _).next fun _ =>
              emits_scanMarkers honest rounds _

theorem emits_parse (honest : Honest reader contents) :
    Emits contents (Jpeg.parse reader) fun _ => True := by
  refine emits_isolated ?_
  exact (emits_readVec honest 0 2 _).next fun _ => under_ensure.next fun _ =>
    emits_scanMarkers honest _ _

end Scan

end Jpeg

/-! ## Still images -/

namespace Bmff

section Items

variable {reader : MetadataReader} {contents : List UInt8} {header : BoxHeader}

/-- What an entry says of its item. -/
structure EntryAt (contents : List UInt8) (entry : BoxHeader) (version : UInt8) (item : ItemEntry) :
    Prop where
  entry : ∃ idBytes, (version = 2 ∧ idBytes = 2 ∨ version = 3 ∧ idBytes = 4) ∧
    entry.payloadOffset + (10 + idBytes) ≤ entry.endOffset ∧
    item.itemId = readBigEndian (slice contents (entry.payloadOffset + 4) idBytes) ∧
    item.itemType = slice contents (entry.payloadOffset + (6 + idBytes)) 4

theorem emits_readItemEntry (reads : reader.ReadsFrom contents) {entry : BoxHeader}
    {payloadLen : Nat} (room : entry.payloadOffset + payloadLen = entry.endOffset) (idBytes : Nat) :
    Emits contents (readItemEntry reader entry payloadLen (10 + idBytes) idBytes) fun item =>
      entry.payloadOffset + (10 + idBytes) ≤ entry.endOffset ∧
      item.itemId = readBigEndian (slice contents (entry.payloadOffset + 4) idBytes) ∧
      item.itemType = slice contents (entry.payloadOffset + (6 + idBytes)) 4 := by
  refine emits_ensure.bind fun _ fits => (reads.readVec _ _ _).bind fun body read => under_pure ?_
  obtain ⟨rfl, -⟩ := read
  refine ⟨by omega, ?_, ?_⟩
  · dsimp only
    rw [slice_slice contents (by omega)]
  · dsimp only
    rw [slice_slice contents (by omega)]

theorem emits_readTypedEntry (reads : reader.ReadsFrom contents) {entry : BoxHeader}
    {payloadLen : Nat} (room : entry.payloadOffset + payloadLen = entry.endOffset)
    (version : UInt8) :
    Emits contents (readTypedEntry reader entry payloadLen version)
      fun found => ∀ item, found = some item → EntryAt contents entry version item := by
  unfold readTypedEntry
  split
  · exact under_pure fun _ same => (by cases same)
  · split
    · rename_i two
      refine (emits_readItemEntry reads room 2).bind fun item stands => under_pure ?_
      rintro _ ⟨⟩
      exact ⟨2, .inl ⟨two, rfl⟩, stands⟩
    · split
      · rename_i three
        refine (emits_readItemEntry reads room 4).bind fun item stands => under_pure ?_
        rintro _ ⟨⟩
        exact ⟨4, .inr ⟨three, rfl⟩, stands⟩
      · exact under_fail

theorem emits_exifItemId (reads : reader.ReadsFrom contents)
    (boxAt : BoxAt contents [.metaBox, .iinf, .infe] header) :
    Emits contents (exifItemId reader header)
      fun found => ∀ itemId, found = some itemId → DeclaresExifItem contents itemId := by
  refine emits_payloadLen.bind fun payloadLen room => emits_ensure.bind fun _ some_ => ?_
  refine (reads.readVec _ _ _).bind fun head read => ?_
  obtain ⟨rfl, within⟩ := read
  refine (emits_readTypedEntry reads room _).bind fun found stands => ?_
  cases found with
  | none => exact under_pure fun _ same => (by cases same)
  | some item =>
      dsimp only
      split
      · rename_i exif
        refine under_ensure.next fun _ => under_pure ?_
        rintro _ ⟨⟩
        obtain ⟨idBytes, versioned, inside, itemId, itemType⟩ := (stands item rfl).entry
        refine ⟨header, _, idBytes, boxAt, versioned, inside, ?_, itemId, itemType ▸ exif⟩
        simp only [fullBoxHeaderBytes] at within
        have first := Jpeg.slice_one
          (show header.payloadOffset + 1 ≤ contents.length by omega)
        rw [first, ← take_slice contents _ (show 1 ≤ fullBoxHeaderBytes by decide)]
        have four := length_slice
          (show header.payloadOffset + fullBoxHeaderBytes ≤ contents.length from within)
        match slice contents header.payloadOffset fullBoxHeaderBytes, four with
        | _ :: _, _ => rfl
      · exact under_pure fun _ same => (by cases same)

theorem emits_itemCountBytes (version : UInt8) :
    Emits contents (itemCountBytes header version) fun _ => True := by
  unfold itemCountBytes
  split
  · exact under_pure trivial
  · split
    · exact under_pure trivial
    · exact under_fail

theorem emits_findExifItem (reads : reader.ReadsFrom contents)
    (boxAt : BoxAt contents [.metaBox, .iinf] header) :
    Emits contents (findExifItem reader header)
      fun found => ∀ itemId, found = some itemId → DeclaresExifItem contents itemId := by
  refine emits_payloadLen.next fun _ => under_ensure.next fun _ => (reads.readVec _ _ _).next
    fun _ => (emits_itemCountBytes _).next fun _ => emits_checkedAdd.next fun headerBytes =>
    emits_checkedAdd.bind fun entriesStart begun => under_ensure.next fun _ => ?_
  refine emits_findInBoxes reads (fun entry behind declared => ?_) _ _ (Nat.le_refl _)
    (show header.payloadOffset ≤ entriesStart by omega)
  unfold visitItemInfo
  split
  · rename_i infe
    have entryAt := boxAt.child behind declared
    rw [infe] at entryAt
    exact emits_exifItemId reads entryAt
  · exact under_pure fun _ same => (by cases same)

/-- The TIFF container of an item is inside its range of the file. -/
theorem emits_extractExifItem (reads : reader.ReadsFrom contents) {itemId : Nat}
    {location : ItemLocation} (exif : DeclaresExifItem contents itemId)
    (located : DeclaresLocation contents itemId location) :
    Emits contents (extractExifItem reader location) fun _ => True := by
  refine emits_checkedAdd.bind fun stop ended => emits_ensure.bind fun _ inside =>
    under_ensure.next fun _ => (reads.readVec _ _ _).bind fun head read => ?_
  obtain ⟨rfl, -⟩ := read
  refine emits_checkedAdd.bind fun afterPrefix first => emits_checkedAdd.bind fun tiffHeader second =>
    under_ensure.next fun _ => ?_
  rw [reads.sourceLen] at inside
  subst first ended
  exact Tiff.emits_parseInRange reads fun byteOrder => {
    inside := inside
    range := fun _ _ _ _ behind before => .item exif located second behind before }

/-- The list of items and the table of locations are children of the same box. -/
structure ItemsAt (contents : List UInt8) (items : MetaItems) : Prop where
  itemInfo : ∀ info, items.itemInfo = some info → BoxAt contents [.metaBox, .iinf] info
  itemLocation : ∀ table, items.itemLocation = some table → BoxAt contents [.metaBox, .iloc] table

theorem emits_collectItems (reads : reader.ReadsFrom contents)
    (boxAt : BoxAt contents [.metaBox] header) {child : BoxHeader}
    (behind : header.payloadOffset ≤ child.offset)
    (declared : DeclaresBox contents header.endOffset child) {items : MetaItems}
    (itemsAt : ItemsAt contents items) :
    Emits contents (collectItems reader child items) (ItemsAt contents) := by
  have childAt := boxAt.child behind declared
  unfold collectItems
  split
  · refine Under.skip ?_ fun _ => under_pure ⟨itemsAt.1, itemsAt.2⟩
    refine emits_payloadLen.next fun _ => ?_
    split
    · exact under_pure trivial
    · exact (reads.readVec _ _ _).next fun _ => under_pure trivial
  · split
    · rename_i iinf
      refine under_pure ⟨?_, itemsAt.2⟩
      rintro info ⟨⟩
      rw [iinf.1] at childAt
      exact childAt
    · split
      · rename_i iloc
        refine under_pure ⟨itemsAt.1, ?_⟩
        rintro table ⟨⟩
        rw [iloc.1] at childAt
        exact childAt
      · exact under_pure itemsAt

theorem emits_parseRootMeta (reads : reader.ReadsFrom contents)
    (boxAt : BoxAt contents [.metaBox] header) (parentDepth : Nat) :
    Emits contents (parseRootMeta reader header parentDepth) fun _ => True := by
  refine (emits_metaChildrenStart reads).bind fun start behind => emits_deeper.next fun _ =>
    (emits_observeNesting reads _ _).next fun _ => ?_
  have none : ItemsAt contents {} :=
    ⟨fun _ same => (by cases same), fun _ same => (by cases same)⟩
  refine (emits_forBoxes reads (fun child found begun declared itemsAt =>
    emits_collectItems reads boxAt (behind.trans begun) declared itemsAt)
    _ _ _ (Nat.le_refl _) (Nat.le_refl _) none).bind fun items itemsAt => ?_
  split
  · cases info : items.itemInfo with
    | none => exact under_pure trivial
    | some info =>
        refine (emits_findExifItem reads (itemsAt.itemInfo _ ‹_›)).bind fun found exif => ?_
        cases found with
        | none => exact under_pure trivial
        | some itemId =>
            dsimp only [extractItem]
            cases table : items.itemLocation with
            | none => exact under_fail
            | some table =>
                exact (emits_findItemLocation reads (itemsAt.itemLocation _ ‹_›) itemId).bind
                  fun location located => emits_extractExifItem reads (exif itemId rfl) located
  · exact under_pure trivial

end Items

/-! ## The walk -/

section Walk

variable {reader : MetadataReader} {contents : List UInt8}

/-- The range of a walk: the file itself, or the payload of a box on the path. -/
inductive RangeAt (contents : List UInt8) : WalkContext → List BoxType → (first stop : Nat) → Prop
  | file (first : Nat) : RangeAt contents .root [] first contents.length
  | payload {context : WalkContext} {path : List BoxType} {parent : BoxHeader} {first : Nat}
      (inner : context ≠ .root) (boxAt : BoxAt contents path parent)
      (behind : parent.payloadOffset ≤ first) :
      RangeAt contents context path first parent.endOffset

variable {context : WalkContext} {path : List BoxType} {first stop : Nat} {header : BoxHeader}

theorem RangeAt.boxAt (rangeAt : RangeAt contents context path first stop)
    (behind : first ≤ header.offset) (declared : DeclaresBox contents stop header) :
    BoxAt contents (path ++ [header.boxType]) header := by
  cases rangeAt with
  | file => exact .root declared
  | payload inner boxAt begun => exact boxAt.child (begun.trans behind) declared

theorem RangeAt.later (rangeAt : RangeAt contents context path first stop) {next : Nat}
    (behind : first ≤ next) : RangeAt contents context path next stop := by
  cases rangeAt with
  | file => exact .file next
  | payload inner boxAt begun => exact .payload inner boxAt (begun.trans behind)

/-- The children of a box are never walked as those of the file. -/
theorem childContext_ne_root {child : WalkContext} {boxType : BoxType}
    (walked : childContext context boxType = some child) : child ≠ .root := by
  rintro rfl
  cases context with
  | root =>
      dsimp only [childContext] at walked
      split at walked <;> cases walked
  | movie =>
      dsimp only [childContext] at walked
      split at walked <;> cases walked
  | userData => cases walked

theorem emits_handleBox (reads : reader.ReadsFrom contents)
    (rangeAt : RangeAt contents context path first stop) (behind : first ≤ header.offset)
    (declared : DeclaresBox contents stop header) (depth : Nat) :
    Emits contents (handleBox reader context header depth (path ++ [header.boxType]))
      fun _ => True := by
  have boxAt := rangeAt.boxAt behind declared
  cases context with
  | root =>
      dsimp only [handleBox]
      cases rangeAt with
      | payload inner => exact absurd rfl inner
      | file =>
          split
          · rename_i meta_
            rw [meta_] at boxAt
            exact emits_parseRootMeta reads boxAt depth
          · exact under_pure trivial
  | movie =>
      dsimp only [handleBox]
      split
      · exact emits_parseMvhd reads boxAt
      · split
        · exact emits_parseMeta reads boxAt depth
        · exact under_pure trivial
  | userData =>
      dsimp only [handleBox]
      split
      · exact emits_parseMeta reads boxAt depth
      · split
        · exact emits_parseLegacyCopyrightDay reads boxAt
        · exact under_pure trivial

theorem emits_walkBoxes (reads : reader.ReadsFrom contents) :
    ∀ (size first stop depth : Nat) (context : WalkContext) (path : List BoxType),
      stop - first ≤ size → RangeAt contents context path first stop →
      Emits contents (walkBoxes reader first stop depth context path) fun _ => True := by
  intro size
  induction size with
  | zero =>
      intro first stop depth context path none _
      rw [walkBoxes, dif_neg (by omega)]
      exact under_pure trivial
  | succ size ih =>
      intro first stop depth context path bounded rangeAt
      rw [walkBoxes]
      split
      · refine (under_attempt (emits_readBoxHeader reads first stop)).bind fun result holds => ?_
        cases result with
        | error error => exact emits_isolate
        | ok box =>
            have declared := holds box rfl
            have begun : first ≤ box.header.offset := box.starts.ge
            have header := box.header_le
            have payload := box.payload_le
            have inside := box.inside
            simp only [boxHeaderBytes] at header
            dsimp only
            refine (emits_isolated ?_).next fun _ =>
              ih _ _ _ _ _ (by omega) (rangeAt.later (by omega))
            cases walked : childContext context box.header.boxType with
            | none => exact emits_handleBox reads rangeAt begun declared depth
            | some child =>
                refine emits_deeper.next fun childDepth => ?_
                rw [walkRange]
                refine (emits_observeNesting reads _ _).next fun _ => ih _ _ _ _ _ (by omega) ?_
                exact .payload (childContext_ne_root walked) (rangeAt.boxAt begun declared)
                  (Nat.le_refl _)
      · exact under_pure trivial

theorem emits_parse (reads : reader.ReadsFrom contents) :
    Emits contents (Bmff.parse reader) fun _ => True := by
  unfold Bmff.parse
  rw [walkRange, reads.sourceLen]
  exact (emits_observeNesting reads _ _).next fun _ =>
    emits_walkBoxes reads _ _ _ _ _ _ (Nat.le_refl _) (.file 0)

end Walk

end Bmff

/-! ## The whole extraction -/

/-- The source holds the bytes: it answers a read inside them with a part of what follows the
offset, at least one byte of it. -/
structure ReadAtSource.Holds (source : ReadAtSource) (contents : List UInt8) : Prop where
  sourceLen : ∀ length, source.sourceLen = some length → length = contents.length
  fits : contents.length < u64Bound
  answers : ∀ call offset room, offset < contents.length → 0 < room →
    ∃ count, 0 < count ∧ count ≤ room ∧ offset + count ≤ contents.length ∧
      source.readAt call offset room = some (slice contents offset count)

section Extraction

variable {source : ReadAtSource} {contents : List UInt8} {limits : ExtractionLimits}

theorem ReadAtSource.Holds.honest (holds : source.Holds contents) (limits : ExtractionLimits) :
    Honest (BudgetedReader.new source contents.length limits) contents :=
  ⟨rfl, holds.fits, holds.answers⟩

variable {reader : BudgetedReader}

theorem emits_detectFormat (honest : Honest reader contents) :
    Emits contents (detectFormat reader) fun _ => True := by
  unfold detectFormat
  dsimp only
  split
  · exact under_pure trivial
  · exact (emits_readVec honest _ _ _).next fun _ => under_pure trivial

theorem emits_parseFormat (honest : Honest reader contents) (format : DetectedFormat) :
    Emits contents (parseFormat (fun reader => Bmff.parse reader) reader format)
      fun _ => True := by
  cases format with
  | jpeg => exact Jpeg.emits_parse honest
  | tiff => exact Tiff.emits_parseDirect (readsFrom_of_honest honest)
  | isoBmff => exact Bmff.emits_parse (readsFrom_of_honest honest)

/-- Every field of a report is faithful to the bytes of the source, at whatever lengths it answers
its reads. -/
theorem locators_faithful (holds : source.Holds contents) :
    ∀ field ∈ (extractTimestampEvidence (fun reader => Bmff.parse reader) source limits).fields,
      field.FaithfulIn contents := by
  unfold extractTimestampEvidence
  cases length : source.sourceLen with
  | none => exact fun _ none => absurd none List.not_mem_nil
  | some sourceLen =>
      have same := holds.sourceLen sourceLen length
      subst same
      have honest := holds.honest limits.effective
      have detected := emits_detectFormat honest {} fun _ none => absurd none List.not_mem_nil
      dsimp only
      revert detected
      rcases detectFormat (BudgetedReader.new source contents.length limits.effective) {} with
        ⟨error | format, state⟩
      · exact fun _ _ none => absurd none List.not_mem_nil
      · intro detected
        cases format with
        | none => exact fun _ none => absurd none List.not_mem_nil
        | some format =>
            have parsed := emits_parseFormat honest format state detected.2
            dsimp only
            revert parsed
            rcases parseFormat (fun reader => Bmff.parse reader)
              (BudgetedReader.new source contents.length limits.effective) format state with
              ⟨error | done, after⟩
            · exact fun _ _ none => absurd none List.not_mem_nil
            · exact fun parsed => parsed.2

end Extraction

/-- A file with one Exif segment, behind a fill byte: its first directory has a date in place. -/
def datedFile : List UInt8 :=
  [0xff, 0xd8, 0xff, 0xff, 0xe1, 0, 34] ++ Jpeg.exifSignature ++ asciiBytes "II" ++
    [42, 0, 8, 0, 0, 0, 1, 0, 0x32, 0x01, 2, 0, 4, 0, 0, 0] ++ asciiBytes "2024" ++
    [0, 0, 0, 0, 0xff, 0xd9]

theorem locators_faithful_datedFile :
    (extractTimestampEvidence (fun reader => Bmff.parse reader) (sliceSource datedFile)
        .default).fields.map MetadataField.rawBytes = [asciiBytes "2024"] ∧
      ∀ field ∈ (extractTimestampEvidence (fun reader => Bmff.parse reader) (sliceSource datedFile)
        .default).fields, field.FaithfulIn datedFile :=
  ⟨by decide +kernel, locators_faithful {
    sourceLen := fun _ same => (Option.some.inj same).symm
    fits := by decide +kernel
    answers := (honest_sliceSource (show datedFile.length < u64Bound by decide +kernel)
      .default).answers }⟩

end Guiying.Metadata
