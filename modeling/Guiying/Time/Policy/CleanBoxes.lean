import Guiying.Metadata.Bmff
import Guiying.Time.Policy.CleanDirectories

/-!
# Clean walks of boxes

The walk of a box file knows on which path it is and has gone as deep as that path is long. So the
locators of the dates it emits are those the policy accepts.
-/

namespace Guiying.Time.Policy

open Guiying.Foundation Guiying.Foundation.ByteString Guiying.Foundation.MachineInt
open Guiying.Metadata Guiying.Metadata.Bmff Parse Program

namespace Bmff

section Boxes

variable {reader : BudgetedReader} {floor : ExtractionUsage}

/-! ## Box headers -/

/-- A box is counted before anything is made of it. -/
theorem cleanly_readBoxHeader (offset parentEnd : Nat) :
    Meets (CleanSoFar reader .isoBmff floor []) (readBoxHeader reader offset parentEnd)
      (fun _ state => True ∧ CleanSoFar reader .isoBmff
        { floor with bmffBoxesVisited := floor.bmffBoxesVisited + 1 } [] state)
      fun _ _ => True := by
  unfold readBoxHeader
  refine along_raise (along_ensure : Along _ (ensure (offset < parentEnd) _) _) fun _ _ => ?_
  refine along_raise cleanly_checkedAdd fun minimumEnd _ => ?_
  refine along_raise (along_ensure : Along _ (ensure (minimumEnd ≤ parentEnd) _) _) fun _ _ => ?_
  refine along_raise (cleanly_readVec _ _ _) fun basic _ => ?_
  refine along_raise (cleanly_visitBmffBox _) fun _ _ => Along.skip ?_ ?_
  · unfold boxSize
    split
    · exact cleanly_checkedSub.next fun _ => along_pure trivial
    · split
      · exact cleanly_checkedAdd.next fun _ => along_ensure.next fun _ =>
          (cleanly_readVec _ _ _).next fun _ => along_pure trivial
      · exact along_pure trivial
  · intro size
    dsimp only
    unfold boxWithin
    split
    · exact along_fail
    · split
      · exact along_fail
      · split
        · exact along_fail
        · exact along_pure trivial

theorem lower_box {state : Extraction} (soFar : CleanSoFar reader .isoBmff
    { floor with bmffBoxesVisited := floor.bmffBoxesVisited + 1 } [] state) :
    CleanSoFar reader .isoBmff floor [] state :=
  soFar.lower ⟨Nat.le_refl _, Nat.le_refl _, Nat.le_add_right _ _, Nat.le_refl _⟩

theorem cleanly_nextBox (offset parentEnd : Nat) :
    Cleanly reader .isoBmff floor [] (readBoxHeader reader offset parentEnd) fun _ => True :=
  (cleanly_readBoxHeader offset parentEnd).consequence (fun _ soFar => soFar)
    (fun _ _ result => ⟨trivial, lower_box result.2⟩) fun _ _ _ => trivial

theorem cleanly_countBox (offset : Nat) :
    Cleanly reader .isoBmff floor [] (reader.visitBmffBox offset) fun _ => True :=
  (cleanly_visitBmffBox offset).consequence (fun _ soFar => soFar)
    (fun _ _ result => ⟨trivial, lower_box result.2⟩) fun _ _ _ => trivial

/-- What is made of the boxes of a range, each of which has its header in front of its payload. -/
theorem cleanly_forBoxes {α : Type} {visit : BoxHeader → α → Parse α} {good : α → Prop}
    (visits : ∀ header found, header.offset + 8 ≤ header.payloadOffset → good found →
      Cleanly reader .isoBmff floor [] (visit header found) good) :
    ∀ size cursor stop found, stop - cursor ≤ size → good found →
      Cleanly reader .isoBmff floor [] (forBoxes reader visit cursor stop found) good := by
  intro size
  induction size with
  | zero =>
      intro cursor stop found none holds
      rw [forBoxes, dif_neg (by omega)]
      exact along_pure holds
  | succ size ih =>
      intro cursor stop found bounded holds
      rw [forBoxes]
      split
      · refine (cleanly_nextBox cursor stop).next fun box => ?_
        have starts := box.starts
        have header := box.header_le
        have payload := box.payload_le
        simp only [boxHeaderBytes] at header
        exact (visits box.header found (by omega) holds).bind fun found holds =>
          ih _ _ found (by omega) holds
      · exact along_pure holds

theorem cleanly_findInBoxes {α : Type} {visit : BoxHeader → Parse (Option α)}
    (visits : ∀ header, Cleanly reader .isoBmff floor [] (visit header) fun _ => True) :
    ∀ size cursor stop, stop - cursor ≤ size →
      Cleanly reader .isoBmff floor [] (findInBoxes reader visit cursor stop) fun _ => True := by
  intro size
  induction size with
  | zero =>
      intro cursor stop none
      rw [findInBoxes, dif_neg (by omega)]
      exact along_pure trivial
  | succ size ih =>
      intro cursor stop bounded
      rw [findInBoxes]
      split
      · refine (cleanly_nextBox cursor stop).next fun box => ?_
        have header := box.header_le
        have payload := box.payload_le
        simp only [boxHeaderBytes] at header
        refine (visits box.header).next fun found => ?_
        cases found with
        | some found => exact along_pure trivial
        | none => exact ih _ _ (by omega)
      · exact along_pure trivial

theorem cleanly_observeNesting (depth offset : Nat) :
    Meets (CleanSoFar reader .isoBmff floor []) (observeNesting reader depth offset)
      (fun _ state => True ∧ CleanSoFar reader .isoBmff
        { floor with maxDepthObserved := max floor.maxDepthObserved depth } [] state)
      fun _ _ => True :=
  cleanly_observeDepth _ _ _ fun other => absurd rfl other

theorem lower_depth {depth : Nat} {state : Extraction} (soFar : CleanSoFar reader .isoBmff
    { floor with maxDepthObserved := max floor.maxDepthObserved depth } [] state) :
    CleanSoFar reader .isoBmff floor [] state :=
  soFar.lower ⟨Nat.le_refl _, Nat.le_refl _, Nat.le_refl _, Nat.le_max_left _ _⟩

/-- What follows the count of a depth may rely on it. -/
theorem cleanly_nested {α : Type} {depth offset : Nat} {next : Unit → Parse α} {good : α → Prop}
    (rest : Cleanly reader .isoBmff
      { floor with maxDepthObserved := max floor.maxDepthObserved depth } [] (next ()) good) :
    Cleanly reader .isoBmff floor [] (observeNesting reader depth offset >>= next) good :=
  along_raise (cleanly_observeNesting depth offset) fun _ _ => rest.lower fun _ => lower_depth

variable {header : BoxHeader}

theorem cleanly_deeper {depth offset : Nat} {context : String} :
    Cleanly reader .isoBmff floor [] (deeper depth offset context)
      fun next => next = depth + 1 :=
  along_orFail.imp fun _ is => (checkedAdd_eq_some.mp is).2

theorem cleanly_payloadLen :
    Cleanly reader .isoBmff floor [] header.payloadLen
      fun length => header.payloadOffset + length = header.endOffset :=
  cleanly_checkedSub.imp fun length is => by omega

theorem cleanly_metaChildrenStart :
    Cleanly reader .isoBmff floor [] (metaChildrenStart reader header) fun _ => True := by
  refine cleanly_payloadLen.next fun payloadLen => ?_
  split
  · refine (cleanly_readVec _ _ _).next fun probe => ?_
    split
    · exact along_pure trivial
    · exact along_ensure.next fun _ => cleanly_checkedAdd.imp fun _ _ => trivial
  · split
    · exact (cleanly_readVec _ _ _).next fun _ => along_ensure.next fun _ =>
        cleanly_checkedAdd.imp fun _ _ => trivial
    · exact along_fail

/-! ## Dates -/

/-- A date read from a box is held, and then emitted with the locator the policy asks for. -/
theorem cleanly_emitDate {kind : MetadataFieldKind} {offset length boxOffset : Nat}
    {path : List BoxType} {rawBytes : List UInt8}
    (placed : Placed .isoBmff kind offset length (.isoBmff boxOffset path))
    (box : isExifKind kind = false) (counted : 0 < floor.bmffBoxesVisited) (deep : path.length ≤ floor.maxDepthObserved)
    (short : path.length ≤ 6) (nonempty : 0 < length)
    (small : length ≤ reader.limits.maxFieldBytes) (whole : rawBytes.length = length)
    (fits : offset + length < u64Bound) :
    Meets (CleanSoFar reader .isoBmff floor [length])
      (pushField (boxField kind (expectedEncoding kind) offset length boxOffset path rawBytes))
      (fun _ state => True ∧ CleanSoFar reader .isoBmff floor [] state) fun _ _ => True := by
  have checked : Checked reader.limits .isoBmff
      (boxField kind (expectedEncoding kind) offset length boxOffset path rawBytes) := {
    parser := rfl
    encoding := decide_eq_true rfl
    nonempty := nonempty
    length := whole
    small := small
    addressable := fits
    placed := placed }
  have accounts : Accounts .isoBmff floor
      (boxField kind (expectedEncoding kind) offset length boxOffset path rawBytes) := {
    depth := ⟨path.length, if_pos (lt_of_le_of_lt short (by decide)), deep⟩
    entries := fun exif => absurd (box.symm.trans exif) Bool.false_ne_true
    boxes := fun _ => counted
    segments := fun jpeg => absurd jpeg (by decide) }
  exact cleanly_pushField checked accounts

/-- The path of the metadata list of a movie. -/
def MetaPath (path : List BoxType) : Prop :=
  path = [.moov, .metaBox] ∨ path = [.moov, .udta, .metaBox]

theorem MetaPath.length_le {path : List BoxType} (metaPath : MetaPath path) : path.length ≤ 3 := by
  rcases metaPath with rfl | rfl
  · decide
  · decide

/-- The policy accepts a text in the data of an accepted item. -/
theorem MetaPath.text {path : List BoxType} (metaPath : MetaPath path) {item : BoxType}
    (accepted : itemTypeAccepted item = true) {boxOffset absoluteOffset : Nat}
    (behind : boxOffset + 16 ≤ absoluteOffset) (fits : absoluteOffset < u64Bound) :
    quicktimeTextLocatorMatches boxOffset (path ++ [.ilst] ++ [item] ++ [.data])
      absoluteOffset = true := by
  have minimum : atLeastAfter boxOffset 16 absoluteOffset = true := by
    unfold atLeastAfter MachineInt.checkedAdd
    rw [if_pos (by omega)]
    exact decide_eq_true behind
  unfold quicktimeTextLocatorMatches
  rcases metaPath with rfl | rfl
  · simp [accepted, minimum]
  · simp [accepted, minimum]

theorem cleanly_parseData (counted : 0 < floor.bmffBoxesVisited) {path : List BoxType}
    {item : BoxType} (metaPath : MetaPath path) (accepted : itemTypeAccepted item = true)
    (deep : path.length + 3 ≤ floor.maxDepthObserved) {data : BoxHeader}
    (behind : data.offset + 8 ≤ data.payloadOffset) (found : Unit) :
    Cleanly reader .isoBmff floor []
      (parseData reader (path ++ [.ilst] ++ [item]) data found) fun _ => True := by
  have short := metaPath.length_le
  have length : (path ++ [BoxType.ilst] ++ [item] ++ [BoxType.data]).length = path.length + 3 := by
    simp only [List.length_append, List.length_singleton]
  unfold parseData
  split
  · refine cleanly_payloadLen.bind fun payloadLen ends => along_ensure.bind fun _ long =>
      (cleanly_readVec _ _ _).next fun _ => along_ensure.next fun _ =>
      cleanly_checkedAdd.bind fun valueOffset at_ =>
      cleanly_checkedSub.bind fun valueLength is => ?_
    simp only [quicktimeDataHeaderBytes] at long at_
    refine meets_via _ (cleanly_readFieldBytes _ _) fun rawBytes state read => ?_
    obtain ⟨⟨whole, fits, small⟩, soFar⟩ := read
    have placed : Placed .isoBmff .quickTimeMetadataCreationDate valueOffset valueLength
        (.isoBmff data.offset (path ++ [.ilst] ++ [item] ++ [.data])) :=
      .inr ⟨rfl, metaPath.text accepted (by omega) (by omega)⟩
    refine along_raise along_check (fun _ _ => cleanly_emitDate placed rfl counted ?_ ?_ ?_ small
      whole fits) state soFar
    · omega
    · omega
    · omega
  · exact along_pure trivial

theorem cleanly_parseMvhd (counted : 0 < floor.bmffBoxesVisited)
    (deep : 2 ≤ floor.maxDepthObserved) (behind : header.offset + 8 ≤ header.payloadOffset) :
    Cleanly reader .isoBmff floor [] (parseMvhd reader header [.moov, .mvhd]) fun _ => True := by
  unfold parseMvhd
  refine cleanly_payloadLen.next fun payloadLen => along_ensure.next fun _ =>
    (cleanly_readVec _ _ _).next fun head => ?_
  have layouts : Cleanly reader .isoBmff floor [] (mvhdLayout header (head.getD 0 0))
      fun layout => layout.1 = 4 ∧ (layout.2.1 = 4 ∨ layout.2.1 = 8) := by
    unfold mvhdLayout
    split
    · exact along_pure ⟨rfl, .inl rfl⟩
    · split
      · exact along_pure ⟨rfl, .inr rfl⟩
      · exact along_fail
  refine layouts.bind fun layout held => along_ensure.next fun _ =>
    cleanly_checkedAdd.bind fun valueOffset at_ => ?_
  refine meets_via _ (cleanly_readFieldBytes _ _) fun rawBytes state read => ?_
  obtain ⟨⟨whole, fits, small⟩, soFar⟩ := read
  have positive : 0 < layout.2.1 := by omega
  have placed : Placed .isoBmff .quickTimeMovieHeaderCreationTime valueOffset layout.2.1
      (.isoBmff header.offset [.moov, .mvhd]) := .inl ⟨rfl, rfl, held.2, by omega⟩
  exact cleanly_emitDate placed rfl counted deep (by decide) positive small whole fits state soFar

theorem cleanly_parseLegacyCopyrightDay (counted : 0 < floor.bmffBoxesVisited)
    (deep : 3 ≤ floor.maxDepthObserved) (behind : header.offset + 8 ≤ header.payloadOffset) :
    Cleanly reader .isoBmff floor []
      (parseLegacyCopyrightDay reader header [.moov, .udta, .copyrightDay]) fun _ => True := by
  unfold parseLegacyCopyrightDay
  refine cleanly_payloadLen.next fun payloadLen => along_ensure.next fun _ =>
    (cleanly_readVec _ _ _).next fun head => along_ensure.bind fun _ nonempty =>
    cleanly_checkedAdd.bind fun valueOffset at_ => cleanly_checkedAdd.next fun valueEnd =>
    along_ensure.next fun _ => ?_
  refine meets_via _ (cleanly_readFieldBytes _ _) fun rawBytes state read => ?_
  obtain ⟨⟨whole, fits, small⟩, soFar⟩ := read
  have minimum : atLeastAfter header.offset 12 valueOffset = true := by
    unfold atLeastAfter MachineInt.checkedAdd
    rw [if_pos (by omega)]
    exact decide_eq_true (by omega)
  have placed : Placed .isoBmff .quickTimeMetadataCreationDate valueOffset
      (readBigEndian (head.take 2)) (.isoBmff header.offset [.moov, .udta, .copyrightDay]) := by
    refine .inr ⟨rfl, ?_⟩
    unfold quicktimeTextLocatorMatches
    rw [minimum]
    rfl
  exact along_raise along_check (fun _ _ => cleanly_emitDate placed rfl counted deep (by decide)
    (Nat.pos_of_ne_zero nonempty) small whole fits) state soFar

/-! ## Metadata lists -/

theorem cleanly_parseMetadataItem (counted : 0 < floor.bmffBoxesVisited) {path : List BoxType}
    {itemType : BoxType} (metaPath : MetaPath path) (accepted : itemTypeAccepted itemType = true)
    (item : BoxHeader) :
    Cleanly reader .isoBmff floor []
      (parseMetadataItem reader item (path.length + 2) (path ++ [.ilst] ++ [itemType]))
      fun _ => True := by
  unfold parseMetadataItem
  refine cleanly_deeper.bind fun depth is => cleanly_nested ?_
  refine cleanly_forBoxes (fun data found behind _ => ?_) _ _ _ _ (Nat.le_refl _) trivial
  refine cleanly_parseData ?_ metaPath accepted ?_ behind found
  · exact counted
  · exact (Nat.le_of_eq is.symm).trans (Nat.le_max_right _ _)

/-- An item is read for its own type or for the number of a key, which is at least one. -/
theorem itemTypeAccepted_of_recognized {recognizedKeys : List Bool} {boxType : BoxType}
    (recognized : recognizedIndex recognizedKeys boxType = true) :
    itemTypeAccepted boxType = true := by
  unfold recognizedIndex at recognized
  cases index : MachineInt.checkedSub (readBigEndian boxType.bytes) 1 with
  | none =>
      rw [index] at recognized
      cases recognized
  | some _ =>
      have numbered := (checkedSub_eq_some.mp index).1
      unfold itemTypeAccepted
      have other : (readBigEndian boxType.bytes != 0) = true := bne_iff_ne.mpr (by omega)
      rw [other, Bool.or_true]

theorem cleanly_parseIlst (counted : 0 < floor.bmffBoxesVisited) {path : List BoxType}
    (metaPath : MetaPath path) (recognizedKeys : List Bool) :
    Cleanly reader .isoBmff floor []
      (parseIlst reader header (path.length + 1) recognizedKeys (path ++ [.ilst]))
      fun _ => True := by
  unfold parseIlst
  refine cleanly_deeper.bind fun depth is => cleanly_nested ?_
  refine cleanly_forBoxes (fun item found behind _ => ?_) _ _ _ _ (Nat.le_refl _) trivial
  unfold parseItem
  split
  · rename_i chosen
    subst is
    refine cleanly_parseMetadataItem ?_ metaPath ?_ item
    · exact counted
    · rcases chosen with day | recognized
      · rw [day]
        rfl
      · exact itemTypeAccepted_of_recognized recognized
  · exact along_pure trivial

theorem cleanly_parseIlsts (counted : 0 < floor.bmffBoxesVisited) {path : List BoxType}
    (metaPath : MetaPath path) (recognizedKeys : List Bool) (children : List BoxHeader) :
    Cleanly reader .isoBmff floor []
      (parseIlsts reader (path.length + 1) recognizedKeys path children) fun _ => True := by
  induction children with
  | nil => exact along_pure trivial
  | cons child children ih =>
      unfold parseIlsts
      split
      · exact (cleanly_parseIlst counted metaPath recognizedKeys).next fun _ => ih
      · exact ih

theorem cleanly_parseKey (cursor : Nat) :
    Cleanly reader .isoBmff floor [] (parseKey reader header cursor) fun _ => True := by
  unfold parseKey
  refine (cleanly_countBox _).next fun _ => cleanly_checkedAdd.next fun _ =>
    along_ensure.next fun _ => (cleanly_readVec _ _ _).next fun entryHeader =>
    along_ensure.next fun _ => cleanly_checkedAdd.next fun _ => along_ensure.next fun _ =>
    cleanly_checkedSub.next fun _ => Along.skip ?_ fun _ => along_pure trivial
  unfold isCreationDate
  split
  · exact cleanly_checkedAdd.next fun _ => (cleanly_readVec _ _ _).next fun _ => along_pure trivial
  · exact along_pure trivial

theorem cleanly_parseKeyEntries : ∀ count cursor recognized, Cleanly reader .isoBmff floor []
    (parseKeyEntries reader header count cursor recognized) fun _ => True
  | 0, _, _ => along_pure trivial
  | count + 1, cursor, _ =>
      (cleanly_parseKey cursor).next fun _ => cleanly_parseKeyEntries count _ _

theorem cleanly_parseKeys :
    Cleanly reader .isoBmff floor [] (parseKeys reader header) fun _ => True := by
  unfold parseKeys
  exact cleanly_payloadLen.next fun _ => along_ensure.next fun _ =>
    (cleanly_readVec _ _ _).next fun _ => along_ensure.next fun _ => along_ensure.next fun _ =>
    cleanly_checkedAdd.next fun _ => (cleanly_parseKeyEntries _ _ _).next fun _ =>
    along_ensure.next fun _ => along_pure trivial

theorem cleanly_parseMeta (counted : 0 < floor.bmffBoxesVisited) {path : List BoxType}
    (metaPath : MetaPath path) :
    Cleanly reader .isoBmff floor [] (parseMeta reader header path.length path)
      fun _ => True := by
  unfold parseMeta
  refine cleanly_metaChildrenStart.next fun start => cleanly_deeper.bind fun childDepth is =>
    cleanly_nested ?_
  refine Along.skip ?_ fun children => Along.skip ?_ fun recognizedKeys => ?_
  · exact cleanly_forBoxes (fun _ _ _ _ => along_pure trivial) _ _ _ _ (Nat.le_refl _) trivial
  · unfold recognizedKeysOf
    cases children.find? (·.boxType = .keys) with
    | none => exact along_pure trivial
    | some child => exact cleanly_parseKeys
  · subst is
    refine cleanly_parseIlsts ?_ metaPath recognizedKeys children
    exact counted

/-! ## Items -/

theorem cleanly_takeBytes (cursor endOffset length : Nat) (context : String) :
    Cleanly reader .isoBmff floor [] (takeBytes reader cursor endOffset length context)
      fun _ => True :=
  cleanly_checkedAdd.next fun _ => along_ensure.next fun _ =>
    (cleanly_readVec _ _ _).next fun _ => along_pure trivial

theorem cleanly_takeU16 (cursor endOffset : Nat) (context : String) :
    Cleanly reader .isoBmff floor [] (takeU16 reader cursor endOffset context) fun _ => True :=
  (cleanly_takeBytes _ _ _ _).next fun _ => along_pure trivial

theorem cleanly_takeUint (cursor endOffset size : Nat) (context : String) :
    Cleanly reader .isoBmff floor [] (takeUint reader cursor endOffset size context)
      fun _ => True := by
  unfold takeUint
  split
  · exact along_pure trivial
  · exact (cleanly_takeBytes _ _ _ _).next fun _ => along_orFail.next fun _ => along_pure trivial

variable {widths : IlocWidths}

theorem cleanly_takeItemHead (cursor : Nat) :
    Cleanly reader .isoBmff floor [] (takeItemHead reader header widths cursor)
      fun _ => True := by
  refine Along.skip ?_ fun _ => Along.skip ?_ fun _ => (cleanly_takeU16 _ _ _).next fun _ =>
    (cleanly_takeUint _ _ _ _).next fun _ => (cleanly_takeU16 _ _ _).next fun _ =>
    along_pure trivial
  · unfold takeItemId
    split
    · exact (cleanly_takeBytes _ _ _ _).next fun _ => along_pure trivial
    · exact cleanly_takeU16 _ _ _
  · unfold takeConstructionMethod
    split
    · exact (cleanly_takeU16 _ _ _).next fun _ => along_pure trivial
    · exact along_pure trivial

theorem cleanly_readLocation (itemOffset : Nat) (item : IlocItemHead) (cursor : Nat) :
    Cleanly reader .isoBmff floor [] (readLocation reader header widths itemOffset item cursor)
      fun _ => True := by
  refine along_ensure.next fun _ => along_ensure.next fun _ => along_ensure.next fun _ =>
    Along.skip ?_ fun _ => (cleanly_takeUint _ _ _ _).next fun _ =>
    (cleanly_takeUint _ _ _ _).next fun _ => along_ensure.next fun _ =>
    cleanly_checkedAdd.next fun _ => along_pure trivial
  unfold skipExtentIndex
  split
  · exact (cleanly_takeBytes _ _ _ _).next fun _ => along_pure trivial
  · exact along_pure trivial

theorem cleanly_searchItem (wantedItem cursor : Nat) :
    Cleanly reader .isoBmff floor [] (searchItem reader header widths wantedItem cursor)
      fun _ => True := by
  refine (cleanly_countBox _).next fun _ => (cleanly_takeItemHead _).next fun item => ?_
  dsimp only
  split
  · exact (cleanly_readLocation _ _ _).next fun _ => along_pure trivial
  · refine Along.skip ?_ fun _ => along_pure trivial
    exact cleanly_checkedAdd.next fun _ => cleanly_checkedAdd.next fun _ =>
      cleanly_checkedMul.next fun _ => cleanly_checkedAdd.next fun _ => along_ensure.next fun _ =>
      along_pure trivial

theorem cleanly_searchItems (wantedItem : Nat) : ∀ count cursor, Cleanly reader .isoBmff floor []
    (searchItems reader header widths wantedItem count cursor) fun _ => True
  | 0, _ => along_fail
  | count + 1, cursor => by
      refine (cleanly_searchItem wantedItem cursor).next fun found => ?_
      cases found with
      | inl location => exact along_pure trivial
      | inr next => exact cleanly_searchItems wantedItem count next

theorem cleanly_findItemLocation (wantedItem : Nat) :
    Cleanly reader .isoBmff floor [] (findItemLocation reader header wantedItem)
      fun _ => True := by
  unfold findItemLocation
  refine cleanly_payloadLen.next fun _ => along_ensure.next fun _ =>
    (cleanly_readVec _ _ _).next fun head => Along.skip ?_ fun widths => Along.skip ?_ fun counted =>
    cleanly_searchItems _ _ _
  · exact along_ensure.next fun _ => along_check.next fun _ => along_pure trivial
  · unfold readItemCount
    split
    · exact cleanly_checkedAdd.next fun _ => cleanly_checkedAdd.next fun _ =>
        along_ensure.next fun _ => (cleanly_readVec _ _ _).next fun _ => along_pure trivial
    · exact cleanly_checkedAdd.next fun _ => along_pure trivial

theorem cleanly_visitItemInfo (entry : BoxHeader) :
    Cleanly reader .isoBmff floor [] (visitItemInfo reader entry) fun _ => True := by
  have item : ∀ payloadLen length idBytes, Cleanly reader .isoBmff floor []
      (readItemEntry reader entry payloadLen length idBytes) fun _ => True := fun _ _ _ =>
    along_ensure.next fun _ => (cleanly_readVec _ _ _).next fun _ => along_pure trivial
  unfold visitItemInfo
  split
  · refine cleanly_payloadLen.next fun payloadLen => along_ensure.next fun _ =>
      (cleanly_readVec _ _ _).next fun head => Along.skip ?_ fun found => ?_
    · unfold readTypedEntry
      split
      · exact along_pure trivial
      · split
        · exact (item _ _ _).next fun _ => along_pure trivial
        · split
          · exact (item _ _ _).next fun _ => along_pure trivial
          · exact along_fail
    · cases found with
      | none => exact along_pure trivial
      | some item =>
          dsimp only
          split
          · exact along_ensure.next fun _ => along_pure trivial
          · exact along_pure trivial
  · exact along_pure trivial

theorem cleanly_findExifItem :
    Cleanly reader .isoBmff floor [] (findExifItem reader header) fun _ => True := by
  refine cleanly_payloadLen.next fun _ => along_ensure.next fun _ =>
    (cleanly_readVec _ _ _).next fun head => Along.skip ?_ fun _ => cleanly_checkedAdd.next fun _ =>
    cleanly_checkedAdd.next fun _ => along_ensure.next fun _ =>
    cleanly_findInBoxes cleanly_visitItemInfo _ _ _ (Nat.le_refl _)
  unfold itemCountBytes
  split
  · exact along_pure trivial
  · split
    · exact along_pure trivial
    · exact along_fail

/-- The directories of an Exif item are walked as those of a file. -/
theorem cleanly_extractExifItem (location : ItemLocation) :
    Cleanly reader .isoBmff floor [] (extractExifItem reader location) fun _ => True := by
  unfold extractExifItem
  exact cleanly_checkedAdd.next fun _ => along_ensure.next fun _ => along_ensure.next fun _ =>
    (cleanly_readVec _ _ _).next fun _ => cleanly_checkedAdd.next fun _ =>
    cleanly_checkedAdd.next fun _ => along_ensure.next fun _ =>
    Tiff.cleanly_parseInRange (fun _ _ _ _ _ exif _ _ => exif) fun other => absurd other (by decide)

theorem cleanly_collectItems (child : BoxHeader) (items : MetaItems) :
    Cleanly reader .isoBmff floor [] (collectItems reader child items) fun _ => True := by
  unfold collectItems
  split
  · refine Along.skip ?_ fun _ => along_pure trivial
    refine cleanly_payloadLen.next fun _ => ?_
    split
    · exact along_pure trivial
    · exact (cleanly_readVec _ _ _).next fun _ => along_pure trivial
  · split
    · exact along_pure trivial
    · split
      · exact along_pure trivial
      · exact along_pure trivial

theorem cleanly_parseRootMeta (parentDepth : Nat) :
    Cleanly reader .isoBmff floor [] (parseRootMeta reader header parentDepth)
      fun _ => True := by
  unfold parseRootMeta
  refine cleanly_metaChildrenStart.next fun start => cleanly_deeper.next fun childDepth =>
    cleanly_nested ?_
  refine Along.skip (cleanly_forBoxes (fun child items _ _ => cleanly_collectItems child items)
    _ _ _ _ (Nat.le_refl _) trivial) fun items => ?_
  split
  · cases items.itemInfo with
    | none => exact along_pure trivial
    | some info =>
        refine cleanly_findExifItem.next fun found => ?_
        cases found with
        | none => exact along_pure trivial
        | some itemId =>
            dsimp only [extractItem]
            cases items.itemLocation with
            | none => exact along_fail
            | some table =>
                exact (cleanly_findItemLocation itemId).next cleanly_extractExifItem
  · exact along_pure trivial

/-! ## The walk -/

/-- The path of the ranges that are walked in a context. -/
def contextPath : WalkContext → List BoxType
  | .root => []
  | .movie => [.moov]
  | .userData => [.moov, .udta]

theorem childContext_path {context child : WalkContext} {boxType : BoxType}
    (walked : childContext context boxType = some child) :
    contextPath context ++ [boxType] = contextPath child := by
  cases context with
  | root =>
      dsimp only [childContext] at walked
      split at walked
      · rename_i movie
        cases walked
        rw [movie]
        rfl
      · cases walked
  | movie =>
      dsimp only [childContext] at walked
      split at walked
      · rename_i userData
        cases walked
        rw [userData]
        rfl
      · cases walked
  | userData => cases walked

theorem cleanly_handleBox (counted : 0 < floor.bmffBoxesVisited) (context : WalkContext)
    (deep : (contextPath context).length + 1 ≤ floor.maxDepthObserved)
    (behind : header.offset + 8 ≤ header.payloadOffset) :
    Cleanly reader .isoBmff floor [] (handleBox reader context header
      ((contextPath context).length + 1) (contextPath context ++ [header.boxType]))
      fun _ => True := by
  cases context with
  | root =>
      dsimp only [handleBox]
      split
      · exact cleanly_parseRootMeta _
      · exact along_pure trivial
  | movie =>
      dsimp only [handleBox]
      split
      · rename_i creation
        rw [creation]
        exact cleanly_parseMvhd counted deep behind
      · split
        · rename_i list
          rw [list]
          exact cleanly_parseMeta counted (.inl rfl)
        · exact along_pure trivial
  | userData =>
      dsimp only [handleBox]
      split
      · rename_i list
        rw [list]
        exact cleanly_parseMeta counted (.inr rfl)
      · split
        · rename_i day
          rw [day]
          exact cleanly_parseLegacyCopyrightDay counted deep behind
        · exact along_pure trivial

/-- The range of a context is walked at the depth of its path. -/
theorem cleanly_walkBoxes : ∀ (size cursor stop : Nat) (context : WalkContext)
    (floor : ExtractionUsage), stop - cursor ≤ size →
    (contextPath context).length + 1 ≤ floor.maxDepthObserved →
    Cleanly reader .isoBmff floor [] (walkBoxes reader cursor stop
      ((contextPath context).length + 1) context (contextPath context)) fun _ => True := by
  intro size
  induction size with
  | zero =>
      intro cursor stop context floor none _
      rw [walkBoxes, dif_neg (by omega)]
      exact along_pure trivial
  | succ size ih =>
      intro cursor stop context floor bounded deep
      rw [walkBoxes]
      split
      · intro state soFar
        have read := cleanly_readBoxHeader cursor stop state soFar
        rw [bind_run]
        unfold attempt
        dsimp only
        revert read
        rcases readBoxHeader reader cursor stop state with ⟨error | box, after⟩
        · exact fun _ => cleanly_isolate error after trivial
        · intro read
          have starts := box.starts
          have header := box.header_le
          have payload := box.payload_le
          have inside := box.inside
          simp only [boxHeaderBytes] at header
          refine ((cleanly_isolated ?_).next fun _ =>
            ih _ _ _ _ (by omega) ?_).lower (fun _ => lower_box) after read.2
          swap
          · exact deep
          cases child : childContext context box.header.boxType with
          | none => exact cleanly_handleBox (Nat.succ_pos _) context deep (by omega)
          | some walked =>
              have path := childContext_path child
              have length := congrArg List.length path
              rw [List.length_append, List.length_singleton] at length
              refine cleanly_deeper.bind fun childDepth is => ?_
              subst is
              rw [walkRange, path, length]
              exact cleanly_nested (ih _ _ _ _ (by omega) (Nat.le_max_right _ _))
      · exact along_pure trivial

theorem cleanly_parse :
    Cleanly reader .isoBmff floor [] (Bmff.parse reader) fun _ => True := by
  unfold Bmff.parse
  rw [walkRange]
  exact cleanly_nested (cleanly_walkBoxes _ _ _ .root _ (Nat.le_refl _) (Nat.le_max_right _ _))

end Boxes

end Bmff

end Guiying.Time.Policy
