import Guiying.Metadata.EmittedBoxes

/-!
# What the search for an item returns

The search in a location table returns the range of the first item with the identifier. Whatever it
returns, the bytes of the table up to that item are an encoding of the items it passed.
-/

namespace Guiying.Metadata

open Guiying.Foundation Guiying.Foundation.ByteString Guiying.Foundation.MachineInt Parse Program

section Table

variable {reader : MetadataReader} {contents : List UInt8} {header : BoxHeader}
  {cursor endOffset : Nat}

/-! ## Fields -/

theorem Boxed.append {first second : List UInt8} (boxed : Boxed contents endOffset cursor first)
    (behind : Boxed contents endOffset (cursor + first.length) second) :
    Boxed contents endOffset cursor (first ++ second) where
  stands := boxed.stands.append behind.stands
  inside := by
    have inside := behind.inside
    rw [List.length_append]
    omega
  box := boxed.box

theorem boxed_nil (inside : cursor ≤ endOffset) (box : endOffset ≤ contents.length) :
    Boxed contents endOffset cursor [] := ⟨List.nil_prefix, inside, box⟩

/-- A number of some width stands at the cursor, in front of `next`. -/
structure Takes (contents : List UInt8) (endOffset cursor width value next : Nat) : Prop where
  boxed : Boxed contents endOffset cursor (beBytes width value)
  fits : FitsWidth width value
  next_eq : next = cursor + width

theorem Takes.le {width value next : Nat} (takes : Takes contents endOffset cursor width value next) :
    next ≤ endOffset := by
  have inside := takes.boxed.inside
  rw [length_beBytes] at inside
  exact takes.next_eq ▸ inside

/-- What follows a number that is taken. -/
theorem Takes.cons {width value next : Nat} {rest : List UInt8}
    (takes : Takes contents endOffset cursor width value next)
    (behind : Boxed contents endOffset next rest) :
    Boxed contents endOffset cursor (beBytes width value ++ rest) := by
  refine takes.boxed.append ?_
  rw [length_beBytes, ← takes.next_eq]
  exact behind

theorem takes_nothing (inside : cursor ≤ endOffset) (box : endOffset ≤ contents.length) :
    Takes contents endOffset cursor 0 0 cursor :=
  ⟨boxed_nil inside box, fitsWidth_zero.mpr rfl, rfl⟩

/-- Any bytes are the number that they spell. -/
theorem takes_slice (cursor width : Nat) (inside : cursor + width ≤ endOffset)
    (box : endOffset ≤ contents.length) :
    Takes contents endOffset cursor width (readBigEndian (slice contents cursor width))
      (cursor + width) := by
  have size := length_slice (inside.trans box)
  have spelled := beBytes_readBigEndian (slice contents cursor width)
  have small := readBigEndian_lt (slice contents cursor width)
  rw [size] at spelled small
  refine ⟨⟨?_, ?_, box⟩, small, rfl⟩
  · rw [spelled]
    exact standsAt_slice contents cursor width
  · rwa [length_beBytes]

theorem emits_takeBytes (reads : reader.ReadsFrom contents) (box : endOffset ≤ contents.length)
    {length : Nat} {context : String} :
    Emits contents (takeBytes reader cursor endOffset length context) fun found =>
      found.1.length = length ∧
        Takes contents endOffset cursor length (readBigEndian found.1) found.2 := by
  refine emits_checkedAdd.bind fun next is => emits_ensure.bind fun _ inside => ?_
  subst is
  refine (reads.readVec _ _ _).bind fun bytes read => under_pure ?_
  obtain ⟨rfl, within⟩ := read
  exact ⟨length_slice within, takes_slice cursor length inside box⟩

theorem emits_takeU16 (reads : reader.ReadsFrom contents) (box : endOffset ≤ contents.length)
    {context : String} :
    Emits contents (takeU16 reader cursor endOffset context)
      fun found => Takes contents endOffset cursor 2 found.1 found.2 :=
  (emits_takeBytes reads box).bind fun _ took => under_pure took.2

theorem emits_takeU32 (reads : reader.ReadsFrom contents) (box : endOffset ≤ contents.length)
    {context : String} :
    Emits contents (takeU32 reader cursor endOffset context)
      fun found => Takes contents endOffset cursor 4 found.1 found.2 :=
  (emits_takeBytes reads box).bind fun _ took => under_pure took.2

theorem emits_takeUint (reads : reader.ReadsFrom contents) (box : endOffset ≤ contents.length)
    (inside : cursor ≤ endOffset) {size : Nat} {context : String} :
    Emits contents (takeUint reader cursor endOffset size context)
      fun found => Takes contents endOffset cursor size found.1 found.2 := by
  unfold takeUint
  split
  · rename_i none
    subst none
    exact under_pure (takes_nothing inside box)
  · refine (emits_takeBytes reads box).bind fun found took => under_orFail.next fun start =>
      under_pure ?_
    dsimp only
    rw [readBigEndian_padded]
    exact took.2

variable {layout : IlocLayout}

theorem emits_takeItemId (reads : reader.ReadsFrom contents)
    (box : header.endOffset ≤ contents.length) :
    Emits contents (takeItemId reader header layout.widths cursor)
      fun found => Takes contents header.endOffset cursor layout.version.idWidth found.1 found.2 := by
  have width := layout.version.idWidth_eq
  unfold takeItemId
  change Emits contents (if layout.version.number = 2 then _ else _) _
  split
  · rename_i two
    rw [if_pos two] at width
    rw [width]
    exact emits_takeU32 reads box
  · rename_i other
    rw [if_neg other] at width
    rw [width]
    exact emits_takeU16 reads box

/-- The method and the bits in front of it, which version 0 does not have. -/
theorem emits_takeConstructionMethod (reads : reader.ReadsFrom contents)
    (box : header.endOffset ≤ contents.length) (inside : cursor ≤ header.endOffset) :
    Emits contents (takeConstructionMethod reader header layout.widths cursor) fun found =>
      ∃ (reserved : Nat) (method : Fin 16), found.1 = method ∧
        Takes contents header.endOffset cursor layout.version.methodWidth (reserved * 16 + method)
          found.2 := by
  unfold takeConstructionMethod
  cases version : layout.version with
  | zero bits =>
      rw [if_neg (by simp [IlocLayout.widths, version, IlocVersion.number])]
      exact under_pure ⟨0, 0, rfl, takes_nothing inside box⟩
  | one indexSize | two indexSize =>
      rw [if_pos (by simp [IlocLayout.widths, version, IlocVersion.number])]
      refine (emits_takeU16 reads box).bind fun found took => under_pure ?_
      obtain ⟨value, next⟩ := found
      have sum : value / 16 * 16 + value % 16 = value := by omega
      refine ⟨value / 16, ⟨value % 16, Nat.mod_lt _ (by decide)⟩, ?_, ?_⟩
      · exact Nat.and_two_pow_sub_one_eq_mod value 4
      · dsimp only
        rw [sum]
        exact took

/-! ## Items -/

variable (layout) in
/-- An item whose head stands at the cursor, whatever extents stand behind it. -/
structure HeadAt (contents : List UInt8) (endOffset cursor : Nat) (head : IlocItemHead)
    (next : Nat) : Prop where
  le : next ≤ endOffset
  behind : next = cursor + layout.headWidth
  item : ∃ (reserved : Nat) (method : Fin 16), head.constructionMethod = method ∧
    ∀ extents : List IlocExtent, extents.length = head.extentCount →
      (∀ extent ∈ extents, layout.FitsExtent extent) →
      Boxed contents endOffset next (extents.flatMap layout.encodeExtent) →
      let item : IlocItem :=
        ⟨head.itemId, reserved, method, head.dataReferenceIndex, head.baseOffset, extents⟩
      layout.FitsItem item ∧ Boxed contents endOffset cursor (layout.encodeItem item)

theorem emits_takeItemHead (reads : reader.ReadsFrom contents)
    (box : header.endOffset ≤ contents.length) :
    Emits contents (takeItemHead reader header layout.widths cursor)
      fun found => HeadAt layout contents header.endOffset cursor found.1 found.2 := by
  refine (emits_takeItemId reads box).bind fun itemId tookId => ?_
  refine (emits_takeConstructionMethod reads box tookId.le).bind fun methodOf tookMethod => ?_
  obtain ⟨reserved, method, same, tookMethod⟩ := tookMethod
  refine (emits_takeU16 reads box).bind fun reference tookReference => ?_
  refine (emits_takeUint reads box tookReference.le).bind fun base tookBase => ?_
  refine (emits_takeU16 reads box).bind fun count tookCount => under_pure ⟨tookCount.le, ?_, ?_⟩
  · have width : layout.headWidth = layout.version.idWidth + layout.version.methodWidth + 2 +
        layout.baseOffsetSize.bytes + 2 := rfl
    have tookBase : Takes contents header.endOffset reference.2 layout.baseOffsetSize.bytes base.1
        base.2 := tookBase
    have ends := tookCount.next_eq
    rw [tookBase.next_eq, tookReference.next_eq, tookMethod.next_eq, tookId.next_eq] at ends
    dsimp only
    omega
  refine ⟨reserved, method, same, fun extents counted fits boxed => ⟨?_, ?_⟩⟩
  · exact {
      itemId := tookId.fits
      method := tookMethod.fits
      dataReferenceIndex := tookReference.fits
      baseOffset := tookBase.fits
      extentCount := counted ▸ tookCount.fits
      extents := fits }
  · have behind := tookCount.cons boxed
    rw [← show extents.length = count.1 from counted] at behind
    exact tookId.cons (tookMethod.cons (tookReference.cons (tookBase.cons behind)))

/-- Three numbers of the widths of an extent are one. -/
theorem boxed_extent {index offset length next later last : Nat}
    (tookIndex : Takes contents endOffset cursor layout.version.indexSize.bytes index next)
    (tookOffset : Takes contents endOffset next layout.offsetSize.bytes offset later)
    (tookLength : Takes contents endOffset later layout.lengthSize.bytes length last) :
    layout.FitsExtent ⟨index, offset, length⟩ ∧
      Boxed contents endOffset cursor (layout.encodeExtent ⟨index, offset, length⟩) :=
  ⟨⟨tookIndex.fits, tookOffset.fits, tookLength.fits⟩,
    tookIndex.cons (tookOffset.cons tookLength.boxed)⟩

theorem exists_extent (box : endOffset ≤ contents.length)
    (inside : cursor + layout.extentWidth ≤ endOffset) :
    ∃ extent, layout.FitsExtent extent ∧
      Boxed contents endOffset cursor (layout.encodeExtent extent) := by
  have width : layout.extentWidth =
      layout.version.indexSize.bytes + layout.offsetSize.bytes + layout.lengthSize.bytes := rfl
  have index := takes_slice cursor layout.version.indexSize.bytes
    (show _ ≤ endOffset by omega) box
  have offset := takes_slice (cursor + layout.version.indexSize.bytes) layout.offsetSize.bytes
    (show _ ≤ endOffset by omega) box
  have length := takes_slice (cursor + layout.version.indexSize.bytes + layout.offsetSize.bytes)
    layout.lengthSize.bytes (show _ ≤ endOffset by omega) box
  exact ⟨_, boxed_extent index offset length⟩

/-- Bytes in front of the end of the box are extents, as many as fit there. -/
theorem exists_extents (box : endOffset ≤ contents.length) :
    ∀ (count cursor : Nat), cursor + count * layout.extentWidth ≤ endOffset →
      ∃ extents : List IlocExtent, extents.length = count ∧
        (∀ extent ∈ extents, layout.FitsExtent extent) ∧
        Boxed contents endOffset cursor (extents.flatMap layout.encodeExtent)
  | 0, cursor, inside =>
      ⟨[], rfl, fun _ none => absurd none List.not_mem_nil, boxed_nil (by omega) box⟩
  | count + 1, cursor, inside => by
      rw [Nat.succ_mul] at inside
      obtain ⟨extents, counted, fits, boxed⟩ :=
        exists_extents box count (cursor + layout.extentWidth) (by omega)
      obtain ⟨extent, fitsFirst, first⟩ :=
        exists_extent box (show cursor + layout.extentWidth ≤ endOffset by omega)
      refine ⟨extent :: extents, congrArg Nat.succ counted, ?_, ?_⟩
      · intro other inside
        rcases List.mem_cons.mp inside with rfl | rest
        · exact fitsFirst
        · exact fits other rest
      · rw [List.flatMap_cons]
        refine first.append ?_
        rw [layout.length_encodeExtent]
        exact boxed

theorem emits_skipExtents (itemOffset extentCount : Nat) :
    Emits contents (skipExtents header layout.widths itemOffset extentCount cursor) fun next =>
      next = cursor + extentCount * layout.extentWidth ∧ next ≤ header.endOffset := by
  refine emits_checkedAdd.bind fun widthsSum first => emits_checkedAdd.bind fun perExtent second =>
    emits_checkedMul.bind fun extentBytes product => emits_checkedAdd.bind fun next is =>
    emits_ensure.bind fun _ inside => under_pure ⟨?_, inside⟩
  subst first second product
  exact is

theorem emits_skipExtentIndex (reads : reader.ReadsFrom contents)
    (box : header.endOffset ≤ contents.length) (inside : cursor ≤ header.endOffset) :
    Emits contents (skipExtentIndex reader header layout.widths cursor) fun next =>
      ∃ index, Takes contents header.endOffset cursor layout.version.indexSize.bytes index next := by
  unfold skipExtentIndex
  split
  · exact (emits_takeBytes reads box).bind fun found took => under_pure ⟨_, took.2⟩
  · rename_i absent
    have none : layout.version.indexSize.bytes = 0 := Nat.eq_zero_of_not_pos absent
    rw [none]
    exact under_pure ⟨0, takes_nothing inside box⟩

/-- The extent at the cursor, and the range of the file that it is. -/
theorem emits_readExtent (reads : reader.ReadsFrom contents)
    (box : header.endOffset ≤ contents.length) (inside : cursor ≤ header.endOffset)
    (itemOffset baseOffset : Nat) :
    Emits contents (readExtent reader header layout.widths itemOffset baseOffset cursor)
      fun location => ∃ extent, layout.FitsExtent extent ∧
        Boxed contents header.endOffset cursor (layout.encodeExtent extent) ∧ extent.length ≠ 0 ∧
        baseOffset + extent.offset < u64Bound ∧
        location = ⟨baseOffset + extent.offset, extent.length⟩ := by
  refine (emits_skipExtentIndex reads box inside).bind fun next tookIndex => ?_
  obtain ⟨index, tookIndex⟩ := tookIndex
  refine (emits_takeUint reads box tookIndex.le).bind fun offset tookOffset => ?_
  refine (emits_takeUint reads box tookOffset.le).bind fun length tookLength => ?_
  obtain ⟨fits, boxed⟩ := boxed_extent tookIndex tookOffset tookLength
  refine emits_ensure.bind fun _ some_ => Under.bind under_orFail fun absolute is => ?_
  obtain ⟨small, rfl⟩ := checkedAdd_eq_some.mp is
  exact under_pure ⟨_, fits, boxed, some_, small, rfl⟩

/-! ## The search -/

/-- The item at the cursor, in its encoding. -/
structure ItemAt (layout : IlocLayout) (contents : List UInt8) (endOffset cursor : Nat)
    (item : IlocItem) : Prop where
  fits : layout.FitsItem item
  boxed : Boxed contents endOffset cursor (layout.encodeItem item)

theorem emits_readLocation (reads : reader.ReadsFrom contents)
    (box : header.endOffset ≤ contents.length) (itemOffset : Nat) {head : IlocItemHead}
    {behind : Nat} (headAt : HeadAt layout contents header.endOffset cursor head behind) :
    Emits contents (readLocation reader header layout.widths itemOffset head behind)
      fun location => ∃ item, ItemAt layout contents header.endOffset cursor item ∧
        item.itemId = head.itemId ∧ item.Locates location := by
  refine emits_ensure.bind fun _ reference => emits_ensure.bind fun _ method =>
    emits_ensure.bind fun _ single => ?_
  refine (emits_readExtent reads box headAt.le itemOffset head.baseOffset).imp
    fun location found => ?_
  obtain ⟨extent, fits, boxed, some_, small, rfl⟩ := found
  obtain ⟨reserved, bits, same, whole⟩ := headAt.item
  obtain ⟨fitsItem, boxedItem⟩ := whole [extent] single.symm
    (fun other inside => List.mem_singleton.mp inside ▸ fits)
    (by rw [List.flatMap_singleton]; exact boxed)
  refine ⟨_, ⟨fitsItem, boxedItem⟩, rfl, reference, ?_, extent, rfl, some_, small, rfl⟩
  exact Fin.ext (same.symm.trans method)

/-- One turn of the search: the item at the cursor, which is the wanted one or is passed. -/
theorem emits_searchItem (reads : reader.ReadsFrom contents)
    (box : header.endOffset ≤ contents.length) (wantedItem : Nat) :
    Emits contents (searchItem reader header layout.widths wantedItem cursor) fun found =>
      ∃ item, ItemAt layout contents header.endOffset cursor item ∧
        match found with
        | .inl location => item.itemId = wantedItem ∧ item.Locates location
        | .inr next => item.itemId ≠ wantedItem ∧
            next = cursor + (layout.encodeItem item).length := by
  refine (reads.visitBmffBox _).next fun _ => (emits_takeItemHead reads box).bind
    fun head headAt => ?_
  obtain ⟨head, behind⟩ := head
  dsimp only at headAt ⊢
  split
  · rename_i wanted
    refine (emits_readLocation reads box cursor headAt).bind fun location found => under_pure ?_
    obtain ⟨item, itemAt, same, locates⟩ := found
    exact ⟨item, itemAt, same.trans wanted, locates⟩
  · rename_i other
    refine (emits_skipExtents cursor head.extentCount).bind fun next skipped => under_pure ?_
    obtain ⟨rfl, inside⟩ := skipped
    obtain ⟨reserved, bits, same, whole⟩ := headAt.item
    obtain ⟨extents, counted, fits, boxed⟩ := exists_extents box head.extentCount behind inside
    obtain ⟨fitsItem, boxedItem⟩ := whole extents counted fits boxed
    refine ⟨_, ⟨fitsItem, boxedItem⟩, other, ?_⟩
    rw [layout.length_encodeItem, counted, headAt.behind]
    omega

/-- The items in front of the wanted one, which the search passed. -/
structure Found (layout : IlocLayout) (contents : List UInt8) (endOffset cursor wantedItem : Nat)
    (passed : List IlocItem) (item : IlocItem) (location : ItemLocation) : Prop where
  others : ∀ other ∈ passed, layout.FitsItem other ∧ other.itemId ≠ wantedItem
  fits : layout.FitsItem item
  wanted : item.itemId = wantedItem
  locates : item.Locates location
  boxed : Boxed contents endOffset cursor
    (passed.flatMap layout.encodeItem ++ layout.encodeItem item)

theorem Found.cons {wantedItem : Nat} {passed : List IlocItem} {first item : IlocItem}
    {location : ItemLocation} (itemAt : ItemAt layout contents endOffset cursor first)
    (other : first.itemId ≠ wantedItem)
    (found : Found layout contents endOffset (cursor + (layout.encodeItem first).length) wantedItem
      passed item location) :
    Found layout contents endOffset cursor wantedItem (first :: passed) item location where
  others := List.forall_mem_cons.mpr ⟨⟨itemAt.fits, other⟩, found.others⟩
  fits := found.fits
  wanted := found.wanted
  locates := found.locates
  boxed := by
    rw [List.flatMap_cons, List.append_assoc]
    exact itemAt.boxed.append found.boxed

theorem emits_searchItems (reads : reader.ReadsFrom contents)
    (box : header.endOffset ≤ contents.length) (wantedItem : Nat) :
    ∀ count cursor, Emits contents (searchItems reader header layout.widths wantedItem count cursor)
      fun location => ∃ passed item, passed.length < count ∧
        Found layout contents header.endOffset cursor wantedItem passed item location
  | 0, _ => under_fail
  | count + 1, cursor => by
      refine (emits_searchItem reads box wantedItem).bind fun found itemFound => ?_
      obtain ⟨item, itemAt, rest⟩ := itemFound
      cases found with
      | inl location =>
          refine under_pure ⟨[], item, Nat.succ_pos _, ?_, itemAt.fits, rest.1, rest.2, itemAt.boxed⟩
          exact fun _ none => absurd none List.not_mem_nil
      | inr next =>
          obtain ⟨other, rfl⟩ := rest
          refine (emits_searchItems reads box wantedItem count _).imp fun location found => ?_
          obtain ⟨passed, last, fewer, found⟩ := found
          exact ⟨item :: passed, last, Nat.succ_lt_succ fewer, found.cons itemAt other⟩

/-! ## The head of a table -/

theorem exists_fieldSize {bytes : Nat} (valid : [0, 4, 8].contains bytes = true) :
    ∃ size : FieldSize, size.bytes = bytes := by
  rcases List.mem_cons.mp (List.contains_iff_mem.mp valid) with rfl | valid
  · exact ⟨.absent, rfl⟩
  rcases List.mem_cons.mp valid with rfl | valid
  · exact ⟨.four, rfl⟩
  · exact ⟨.eight, (List.mem_singleton.mp valid).symm⟩

theorem toNat_high (byte : UInt8) : (byte >>> 4).toNat = byte.toNat / 16 := by
  rw [UInt8.toNat_shiftRight]
  exact Nat.shiftRight_eq_div_pow byte.toNat 4

theorem toNat_low (byte : UInt8) : (byte &&& 0x0f).toNat = byte.toNat % 16 := by
  rw [UInt8.toNat_and]
  exact Nat.and_two_pow_sub_one_eq_mod byte.toNat 4

/-- A byte is its two halves. -/
theorem nibbles (byte : UInt8) :
    UInt8.ofNat ((byte >>> 4).toNat * 16 + (byte &&& 0x0f).toNat) = byte := by
  rw [toNat_high, toNat_low, show byte.toNat / 16 * 16 + byte.toNat % 16 = byte.toNat by omega,
    UInt8.ofNat_toNat]

/-- The version that the last widths belong to: version 0 has no width in the low half. -/
theorem exists_version {number low : Nat} (small : number ≤ 2) (half : low < 16)
    (valid : [0, 4, 8].contains (if 1 ≤ number then low else 0) = true) :
    ∃ version : IlocVersion, version.number = number ∧ version.lastNibble = low ∧
      version.indexSize.bytes = if 1 ≤ number then low else 0 := by
  obtain ⟨size, same⟩ := exists_fieldSize valid
  match number, small with
  | 0, _ => exact ⟨.zero ⟨low, half⟩, rfl, rfl, rfl⟩
  | 1, _ => exact ⟨.one size, rfl, same, same⟩
  | 2, _ => exact ⟨.two size, rfl, same, same⟩

/-- The widths that are read are those of a layout, in the encoding of its head. -/
theorem emits_readWidths {head : List UInt8} (eight : head.length = 8) (payloadOffset : Nat) :
    Emits contents (readWidths head payloadOffset) fun widths =>
      ∃ (layout : IlocLayout) (flags : List UInt8), flags.length = 3 ∧ widths = layout.widths ∧
        head.take 6 = layout.encodeHead flags := by
  match head, eight with
  | [number, first, second, third, widths, last, _, _], _ =>
      refine emits_ensure.bind fun _ small => under_ensure.bind fun _ valid => under_pure ?_
      simp only [List.all_cons, List.all_nil, Bool.and_true, Bool.and_eq_true] at valid
      obtain ⟨offset, length, base, index⟩ := valid
      obtain ⟨offsetSize, sameOffset⟩ := exists_fieldSize offset
      obtain ⟨lengthSize, sameLength⟩ := exists_fieldSize length
      obtain ⟨baseSize, sameBase⟩ := exists_fieldSize base
      obtain ⟨version, sameNumber, sameLast, sameIndex⟩ := exists_version small
        (show (last &&& 0x0f).toNat < 16 by rw [toNat_low]; omega) index
      refine ⟨⟨version, offsetSize, lengthSize, baseSize⟩, [first, second, third], rfl, ?_, ?_⟩
      · unfold IlocLayout.widths
        rw [sameNumber, sameOffset, sameLength, sameBase, sameIndex]
        rfl
      · unfold IlocLayout.encodeHead
        rw [sameNumber, sameOffset, sameLength, sameBase, sameLast]
        simp only [List.getD_cons_zero, List.getD_cons_succ, nibbles, UInt8.ofNat_toNat]
        rfl

theorem emits_readItemCount (reads : reader.ReadsFrom contents)
    (box : header.endOffset ≤ contents.length)
    (inside : header.payloadOffset + 8 ≤ header.endOffset) :
    Emits contents
      (readItemCount reader header (slice contents header.payloadOffset 8) layout.widths.version)
      fun found => Takes contents header.endOffset (header.payloadOffset + 6) layout.version.idWidth
        found.1 found.2 := by
  have width := layout.version.idWidth_eq
  unfold readItemCount
  change Emits contents (if layout.version.number = 2 then _ else _) _
  split
  · rename_i two
    rw [if_pos two] at width
    rw [width]
    refine emits_checkedAdd.bind fun countOffset begun => emits_checkedAdd.bind fun countEnd ended =>
      emits_ensure.bind fun _ within => (reads.readVec _ _ _).bind fun counted read => under_pure ?_
    obtain ⟨rfl, -⟩ := read
    subst begun ended
    exact takes_slice _ 4 within box
  · rename_i other
    rw [if_neg other] at width
    rw [width, slice_slice contents (show 6 + 2 ≤ 8 by decide)]
    refine emits_checkedAdd.bind fun cursor is => under_pure ?_
    subst is
    exact takes_slice (header.payloadOffset + 6) 2 inside box

/-- The location that is found is the one that the bytes declare. -/
theorem emits_findItemLocation (reads : reader.ReadsFrom contents)
    (boxAt : BoxAt contents [.metaBox, .iloc] header) (wantedItem : Nat) :
    Emits contents (findItemLocation reader header wantedItem)
      (DeclaresLocation contents wantedItem) := by
  have box := boxAt.endOffset_le
  refine Bmff.emits_payloadLen.bind fun payloadLength room => emits_ensure.bind fun _ eight => ?_
  have inside : header.payloadOffset + 8 ≤ header.endOffset := by omega
  refine (reads.readVec _ _ _).bind fun head read => ?_
  obtain ⟨rfl, within⟩ := read
  refine (emits_readWidths (length_slice within) _).bind fun widths declared => ?_
  obtain ⟨layout, flags, three, rfl, encoded⟩ := declared
  refine (emits_readItemCount reads box inside).bind fun counted tookCount => ?_
  refine (emits_searchItems reads box wantedItem _ _).imp fun location found => ?_
  obtain ⟨passed, item, fewer, found⟩ := found
  refine ⟨header, layout, flags, counted.1, passed, item, boxAt, three, fewer, found.others,
    found.fits, found.wanted, found.locates, ?_⟩
  have headStands : Boxed contents header.endOffset header.payloadOffset
      (layout.encodeHead flags) := by
    rw [← encoded, take_slice contents _ (show 6 ≤ 8 by decide)]
    refine ⟨standsAt_slice _ _ _, ?_, box⟩
    rw [length_slice (by omega)]
    omega
  refine headStands.append ?_
  rw [layout.length_encodeHead three]
  exact tookCount.cons found.boxed

end Table

end Guiying.Metadata
