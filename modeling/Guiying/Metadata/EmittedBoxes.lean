import Guiying.Metadata.Emitted

/-!
# What the box walk emits

The walk knows of every box it reads on which path the bytes declare it. So what it emits for a box
lies in the payload of that box.
-/

namespace Guiying.Metadata

open Guiying.Foundation Guiying.Foundation.ByteString Guiying.Foundation.MachineInt Parse Program

/-! ## Slices of slices -/

theorem take_slice (bytes : List UInt8) (offset : Nat) {short length : Nat}
    (less : short ≤ length) : (slice bytes offset length).take short = slice bytes offset short := by
  unfold slice
  rw [List.take_take, Nat.min_eq_left less]

theorem drop_slice (bytes : List UInt8) (offset length skipped : Nat) :
    (slice bytes offset length).drop skipped =
      slice bytes (offset + skipped) (length - skipped) := by
  unfold slice
  rw [List.drop_take, List.drop_drop]

theorem slice_slice (bytes : List UInt8) {offset length skipped short : Nat}
    (less : skipped + short ≤ length) :
    slice (slice bytes offset length) skipped short = slice bytes (offset + skipped) short := by
  rw [show slice (slice bytes offset length) skipped short =
    ((slice bytes offset length).drop skipped).take short from rfl, drop_slice,
    take_slice _ _ (by omega)]

namespace Bmff

section Boxes

variable {reader : MetadataReader} {contents : List UInt8}

/-! ## Headers -/

/-- How long the header in front of a payload and a user type is. -/
def sizeFieldBytes (extended : Bool) : Nat :=
  if extended then extendedBoxHeaderBytes else boxHeaderBytes

theorem emits_boxSize (reads : reader.ReadsFrom contents) {offset parentEnd minimumEnd : Nat}
    (minimum : minimumEnd = offset + 8) :
    Emits contents
      (boxSize reader offset parentEnd minimumEnd (readBigEndian (slice contents offset 4)))
      fun found => BoxExtent contents offset parentEnd (sizeFieldBytes found.2) found.1 := by
  unfold boxSize
  split
  · rename_i rest
    refine emits_checkedSub.bind fun size is => under_pure ?_
    obtain ⟨inside, rfl⟩ := is
    exact .toEnd rest inside
  · rename_i some_
    split
    · rename_i long
      refine emits_checkedAdd.next fun _ => under_ensure.next fun _ => ?_
      refine (reads.readVec minimumEnd 8 _).bind fun extended read => under_pure ?_
      obtain ⟨rfl, -⟩ := read
      rw [minimum]
      exact .extended long
    · rename_i short
      exact under_pure (.plain some_ short)

theorem ofBytes_bytes {bytes : List UInt8} (four : bytes.length = 4) :
    (BoxType.ofBytes bytes).bytes = bytes := by
  match bytes, four with
  | [_, _, _, _], _ => rfl

/-- The bytes declare every box whose header is read. -/
theorem emits_readBoxHeader (reads : reader.ReadsFrom contents) (offset parentEnd : Nat) :
    Emits contents (readBoxHeader reader offset parentEnd)
      fun box => DeclaresBox contents parentEnd box.header := by
  refine under_ensure.next fun _ => emits_checkedAdd.bind fun minimumEnd minimum => ?_
  refine under_ensure.next fun _ => (reads.readVec offset 8 _).bind fun basic read => ?_
  obtain ⟨rfl, inside⟩ := read
  refine (reads.visitBmffBox offset).next fun _ => ?_
  rw [take_slice contents offset (show 4 ≤ 8 by decide)]
  refine (emits_boxSize reads minimum).bind fun found extent => ?_
  obtain ⟨size, extended⟩ := found
  have four : ((slice contents offset 8).drop 4).length = 4 := by
    rw [drop_slice]
    exact length_slice (by omega)
  have boxType := ofBytes_bytes four
  rw [drop_slice] at boxType ⊢
  dsimp only at extent ⊢
  unfold boxWithin
  split
  · exact under_fail
  · split
    · exact under_fail
    · split
      · exact under_fail
      · rename_i large _ within
        refine under_pure {
          boxType := boxType
          extent := ⟨_, _, extent, rfl, rfl⟩
          payload_le := Nat.add_le_add_left (Nat.le_of_not_lt large) offset
          inside := Nat.le_of_not_lt within }

/-! ## Loops over boxes -/

section Loops

variable {α : Type} {stop first : Nat}

/-- What is made of a range, where every box that the bytes declare there adds to it. -/
theorem emits_forBoxes (reads : reader.ReadsFrom contents) {visit : BoxHeader → α → Parse α}
    {good : α → Prop}
    (visits : ∀ header found, first ≤ header.offset → DeclaresBox contents stop header →
      good found → Emits contents (visit header found) good) :
    ∀ (size cursor : Nat) (found : α), stop - cursor ≤ size → first ≤ cursor → good found →
      Emits contents (forBoxes reader visit cursor stop found) good := by
  intro size
  induction size with
  | zero =>
      intro cursor found none _ holds
      rw [forBoxes, dif_neg (by omega)]
      exact under_pure holds
  | succ size ih =>
      intro cursor found bounded begun holds
      rw [forBoxes]
      split
      · refine (emits_readBoxHeader reads cursor stop).bind fun box declared => ?_
        have header := box.header_le
        have payload := box.payload_le
        simp only [boxHeaderBytes] at header
        exact (visits box.header found (begun.trans_eq box.starts.symm) declared holds).bind
          fun found holds => ih box.header.endOffset found (by omega) (by omega) holds
      · exact under_pure holds

theorem emits_findInBoxes (reads : reader.ReadsFrom contents)
    {visit : BoxHeader → Parse (Option α)} {good : α → Prop}
    (visits : ∀ header, first ≤ header.offset → DeclaresBox contents stop header →
      Emits contents (visit header) fun result => ∀ found, result = some found → good found) :
    ∀ size cursor : Nat, stop - cursor ≤ size → first ≤ cursor →
      Emits contents (findInBoxes reader visit cursor stop)
        fun result => ∀ found, result = some found → good found := by
  intro size
  induction size with
  | zero =>
      intro cursor none _
      rw [findInBoxes, dif_neg (by omega)]
      exact under_pure fun _ same => (by cases same)
  | succ size ih =>
      intro cursor bounded begun
      rw [findInBoxes]
      split
      · refine (emits_readBoxHeader reads cursor stop).bind fun box declared => ?_
        have header := box.header_le
        have payload := box.payload_le
        simp only [boxHeaderBytes] at header
        refine (visits box.header (begun.trans_eq box.starts.symm) declared).bind
          fun result holds => ?_
        cases result with
        | some found => exact under_pure holds
        | none => exact ih box.header.endOffset (by omega) (by omega)
      · exact under_pure fun _ same => (by cases same)

end Loops

/-! ## Movie metadata -/

variable {header : BoxHeader} {path : List BoxType}

theorem emits_payloadLen :
    Emits contents header.payloadLen
      fun length => header.payloadOffset + length = header.endOffset :=
  emits_checkedSub.imp fun length is => by omega

theorem emits_deeper {depth offset : Nat} {context : String} :
    Emits contents (deeper depth offset context) fun _ => True :=
  under_orFail.imp fun _ _ => trivial

theorem emits_observeNesting (reads : reader.ReadsFrom contents) (depth offset : Nat) :
    Emits contents (observeNesting reader depth offset) fun _ => True :=
  reads.observeDepth _ _ _ _

theorem emits_metaChildrenStart (reads : reader.ReadsFrom contents) :
    Emits contents (metaChildrenStart reader header) fun start => header.payloadOffset ≤ start := by
  refine emits_payloadLen.next fun payloadLen => ?_
  split
  · refine (reads.readVec _ _ _).next fun probe => ?_
    split
    · exact under_pure (Nat.le_refl _)
    · exact under_ensure.next fun _ => emits_checkedAdd.imp fun start is => by omega
  · split
    · exact (reads.readVec _ _ _).next fun _ => under_ensure.next fun _ =>
        emits_checkedAdd.imp fun start is => by omega
    · exact under_fail

/-- A field of bytes in the payload of a box on the path. -/
theorem faithful_boxField (boxAt : BoxAt contents path header) (kind : MetadataFieldKind)
    (encoding : FieldEncoding) {offset length : Nat} (positive : 1 ≤ length)
    (behind : header.payloadOffset ≤ offset) (inside : offset + length ≤ header.endOffset) :
    (boxField kind encoding offset length header.offset path
      (slice contents offset length)).FaithfulIn contents := by
  have within := inside.trans boxAt.endOffset_le
  exact {
    inside := within
    length := (length_slice within).symm
    nonempty := positive
    bytes := rfl
    declared := .box boxAt behind inside }

theorem emits_mvhdLayout (version : UInt8) :
    Emits contents (mvhdLayout header version)
      fun layout => 1 ≤ layout.2.1 ∧ layout.1 + layout.2.1 ≤ layout.2.2 := by
  unfold mvhdLayout
  split
  · exact under_pure (by decide)
  · split
    · exact under_pure (by decide)
    · exact under_fail

theorem emits_parseMvhd (reads : reader.ReadsFrom contents) (boxAt : BoxAt contents path header) :
    Emits contents (parseMvhd reader header path) fun _ => True := by
  refine emits_payloadLen.bind fun payloadLen room => under_ensure.next fun _ =>
    (reads.readVec _ _ _).next fun head => (emits_mvhdLayout _).bind fun layout fits => ?_
  obtain ⟨valueDelta, valueLength, minimumPayload⟩ := layout
  dsimp only at fits ⊢
  refine emits_ensure.bind fun _ large => emits_checkedAdd.bind fun valueOffset is => ?_
  refine (reads.readFieldBytes _ _).bind fun rawBytes read => ?_
  obtain ⟨rfl, -⟩ := read
  exact emits_pushField (faithful_boxField boxAt _ _ fits.1 (by omega) (by omega))

theorem emits_isCreationDate (reads : reader.ReadsFrom contents) (cursor : Nat)
    (entryHeader : List UInt8) (keyLength : Nat) :
    Emits contents (isCreationDate reader cursor entryHeader keyLength) fun _ => True := by
  unfold isCreationDate
  split
  · exact emits_checkedAdd.next fun _ => (reads.readVec _ _ _).next fun _ => under_pure trivial
  · exact under_pure trivial

theorem emits_parseKey (reads : reader.ReadsFrom contents) (cursor : Nat) :
    Emits contents (parseKey reader header cursor) fun _ => True :=
  (reads.visitBmffBox _).next fun _ => emits_checkedAdd.next fun _ => under_ensure.next fun _ =>
    (reads.readVec _ _ _).next fun _ => under_ensure.next fun _ => emits_checkedAdd.next fun _ =>
    under_ensure.next fun _ => emits_checkedSub.next fun _ =>
    (emits_isCreationDate reads _ _ _).next fun _ => under_pure trivial

theorem emits_parseKeyEntries (reads : reader.ReadsFrom contents) :
    ∀ count cursor recognized,
      Emits contents (parseKeyEntries reader header count cursor recognized) fun _ => True
  | 0, _, _ => under_pure trivial
  | count + 1, cursor, _ =>
      (emits_parseKey reads cursor).next fun _ => emits_parseKeyEntries reads count _ _

theorem emits_parseKeys (reads : reader.ReadsFrom contents) :
    Emits contents (parseKeys reader header) fun _ => True :=
  emits_payloadLen.next fun _ => under_ensure.next fun _ => (reads.readVec _ _ _).next fun _ =>
    under_ensure.next fun _ => under_ensure.next fun _ => emits_checkedAdd.next fun _ =>
    (emits_parseKeyEntries reads _ _ _).next fun _ => under_ensure.next fun _ => under_pure trivial

theorem emits_parseData (reads : reader.ReadsFrom contents) {item data : BoxHeader}
    (boxAt : BoxAt contents path item) (behind : item.payloadOffset ≤ data.offset)
    (declared : DeclaresBox contents item.endOffset data) (found : Unit) :
    Emits contents (parseData reader path data found) fun _ => True := by
  unfold parseData
  split
  · rename_i same
    have boxAt := boxAt.child behind declared
    rw [same] at boxAt
    refine emits_payloadLen.bind fun payloadLen room => emits_ensure.bind fun _ large =>
      (reads.readVec _ _ _).next fun _ => under_ensure.next fun _ =>
      emits_checkedAdd.bind fun valueOffset begun => emits_checkedSub.bind fun valueLength rest => ?_
    refine (reads.readFieldBytes _ _).bind fun rawBytes read => under_ensure.next fun _ => ?_
    obtain ⟨rfl, -⟩ := read
    simp only [quicktimeDataHeaderBytes] at large begun
    exact emits_pushField (faithful_boxField boxAt _ _ (by omega) (by omega) (by omega))
  · exact under_pure trivial

theorem emits_parseMetadataItem (reads : reader.ReadsFrom contents)
    (boxAt : BoxAt contents path header) (parentDepth : Nat) :
    Emits contents (parseMetadataItem reader header parentDepth path) fun _ => True :=
  emits_deeper.next fun _ => (emits_observeNesting reads _ _).next fun _ =>
    emits_forBoxes reads
      (fun _ found behind declared _ => emits_parseData reads boxAt behind declared found)
      _ _ _ (Nat.le_refl _) (Nat.le_refl _) trivial

theorem emits_parseIlst (reads : reader.ReadsFrom contents) (boxAt : BoxAt contents path header)
    (parentDepth : Nat) (recognizedKeys : List Bool) :
    Emits contents (parseIlst reader header parentDepth recognizedKeys path) fun _ => True := by
  refine emits_deeper.next fun depth => (emits_observeNesting reads _ _).next fun _ => ?_
  refine emits_forBoxes reads (fun item found behind declared _ => ?_)
    _ _ _ (Nat.le_refl _) (Nat.le_refl _) trivial
  unfold parseItem
  split
  · exact emits_parseMetadataItem reads (boxAt.child behind declared) depth
  · exact under_pure trivial

theorem emits_readChildren (reads : reader.ReadsFrom contents) (boxAt : BoxAt contents path header)
    {start : Nat} (behind : header.payloadOffset ≤ start) :
    Emits contents (readChildren reader start header.endOffset)
      fun children => ∀ child ∈ children, BoxAt contents (path ++ [child.boxType]) child := by
  refine emits_forBoxes reads (fun child children begun declared holds => under_pure ?_)
    _ _ _ (Nat.le_refl _) (Nat.le_refl _) fun _ none => absurd none List.not_mem_nil
  intro other inside
  rcases List.mem_append.mp inside with before | last
  · exact holds other before
  · rw [List.mem_singleton.mp last]
    exact boxAt.child (behind.trans begun) declared

theorem emits_parseIlsts (reads : reader.ReadsFrom contents) (depth : Nat)
    (recognizedKeys : List Bool) {children : List BoxHeader}
    (holds : ∀ child ∈ children, BoxAt contents (path ++ [child.boxType]) child) :
    Emits contents (parseIlsts reader depth recognizedKeys path children) fun _ => True := by
  induction children with
  | nil => exact under_pure trivial
  | cons child children ih =>
      have rest := ih fun other inside => holds other (List.mem_cons_of_mem _ inside)
      have boxAt := holds child List.mem_cons_self
      unfold parseIlsts
      split
      · rename_i ilst
        rw [ilst] at boxAt
        exact (emits_parseIlst reads boxAt depth recognizedKeys).next fun _ => rest
      · exact rest

theorem emits_parseMeta (reads : reader.ReadsFrom contents) (boxAt : BoxAt contents path header)
    (parentDepth : Nat) :
    Emits contents (parseMeta reader header parentDepth path) fun _ => True := by
  refine (emits_metaChildrenStart reads).bind fun start behind => emits_deeper.next fun depth =>
    (emits_observeNesting reads _ _).next fun _ =>
    (emits_readChildren reads boxAt behind).bind fun children holds => ?_
  refine Under.skip ?_ fun keys => emits_parseIlsts reads _ _ holds
  unfold recognizedKeysOf
  cases children.find? (·.boxType = .keys) with
  | none => exact under_pure trivial
  | some child => exact emits_parseKeys reads

theorem emits_parseLegacyCopyrightDay (reads : reader.ReadsFrom contents)
    (boxAt : BoxAt contents path header) :
    Emits contents (parseLegacyCopyrightDay reader header path) fun _ => True := by
  refine emits_payloadLen.next fun payloadLen => under_ensure.next fun _ =>
    (reads.readVec _ _ _).next fun head => emits_ensure.bind fun _ some_ => ?_
  refine emits_checkedAdd.bind fun valueOffset begun => emits_checkedAdd.bind fun valueEnd ended =>
    emits_ensure.bind fun _ inside => ?_
  refine (reads.readFieldBytes _ _).bind fun rawBytes read => under_ensure.next fun _ => ?_
  obtain ⟨rfl, -⟩ := read
  exact emits_pushField
    (faithful_boxField boxAt _ _ (Nat.one_le_iff_ne_zero.mpr some_) (by omega) (by omega))

end Boxes

end Bmff

end Guiying.Metadata
