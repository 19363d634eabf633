import Mathlib.Algebra.Order.BigOperators.Group.List
import Mathlib.Algebra.Order.Group.Nat
import Guiying.Metadata.Bmff
import Guiying.Metadata.TiffRounds

/-!
# How many boxes a walk visits

The boxes of a range stand one behind the other, none shorter than its header, and the children of
a box inside it. So the walk of a range visits no more boxes than the range has bytes, three times
over for the passes it makes. No limit of the reader has a part in this.
-/

namespace Guiying.Metadata

open Guiying.Foundation Guiying.Foundation.ByteString Guiying.Foundation.MachineInt Parse Program

/-- The boxes visited so far. -/
def boxes (state : Extraction) : Nat := state.usage.bmffBoxesVisited

/-- A reader that counts a box when it is visited, and at no other time. -/
structure MetadataReader.CountsBoxes (reader : MetadataReader) : Prop where
  keeps : reader.Keeps boxes
  visitBmffBox : ∀ offset, Adds boxes 1 (reader.visitBmffBox offset)

/-- The bytes of a box behind its header. -/
def BoxHeader.room (header : BoxHeader) : Nat := header.endOffset - header.payloadOffset

theorem payloadLen_returns {header : BoxHeader} {state after : Extraction} {length : Nat}
    (ran : header.payloadLen state = (.ok length, after)) : length = header.room :=
  (checkedSub_eq_some.mp (orFail_eq_ok.mp ran).1).2

theorem boxes_payloadLen (header : BoxHeader) : Keeps boxes header.payloadLen :=
  leaves_checkedSub _ _ _ _

/-! ## TIFF containers -/

namespace Tiff

section Boxes

variable {reader : MetadataReader} {walk : TiffWalk} (keeps : reader.Keeps boxes)

include keeps

theorem boxes_processIfd (task : IfdTask) : Keeps boxes (processIfd reader walk task) := by
  refine keeps_bind (leaves_checkedAdd _ _ _ _) fun ifdOffset => ?_
  refine keeps_bind (leaves_ensure _ _) fun _ => ?_
  refine keeps_bind (keeps_bind reads_current.keeps fun _ =>
    keeps_bind (leaves_ensure _ _) fun _ _ => rfl) fun _ => ?_
  refine keeps_bind (keeps.observeDepth _ _ _ _) fun _ => ?_
  refine keeps_bind (leaves_readTable keeps _) fun table => ?_
  refine keeps_bind (leaves_processEntries keeps _ _ _ _ _ _ _) fun exifIfd => ?_
  refine keeps_bind reads_orFail.keeps fun depth => keeps_bind ?_ fun _ => ?_
  · unfold pushNext
    split
    · exact leaves_pure _
    · exact fun _ => rfl
  · cases exifIfd with
    | none => exact leaves_pure _
    | some _ => exact fun _ => rfl

theorem boxes_walkPending (rounds : Nat) : Keeps boxes (walkPending reader walk rounds) := by
  induction rounds with
  | zero => exact leaves_pure _
  | succ rounds ih =>
      refine keeps_bind (fun state => ?_) fun popped => ?_
      · unfold popTask
        split <;> rfl
      · cases popped with
        | none => exact leaves_pure _
        | some task =>
            exact keeps_bind (leaves_isolated keeps.pushIssue (boxes_processIfd keeps task))
              fun _ => ih

theorem boxes_parseInRange (headerOffset containerEnd : Nat) (origin : TiffOrigin) :
    Keeps boxes (parseInRange reader headerOffset containerEnd origin) := by
  have container : Keeps boxes (walkContainer reader headerOffset containerEnd origin) := by
    refine keeps_bind (leaves_ensure _ _) fun _ => ?_
    refine keeps_bind (leaves_ensureInContainer _ _ _ _) fun _ => ?_
    refine keeps_bind (keeps.readVec _ _ _) fun header => ?_
    refine keeps_bind reads_orFail.keeps fun byteOrder => ?_
    refine keeps_bind (leaves_ensure _ _) fun _ => ?_
    dsimp only
    split
    · exact leaves_pure _
    · exact keeps_bind (fun _ => rfl) fun _ => boxes_walkPending keeps _
  exact fun state => container { state with visited := [], pending := [] }

end Boxes

end Tiff

/-! ## Item locations -/

section Locations

variable {reader : MetadataReader} {header : BoxHeader} {widths : IlocWidths}
  {cursor endOffset : Nat}

theorem takeBytes_returns {length : Nat} {context : String} {state after : Extraction}
    {result : List UInt8 × Nat}
    (ran : takeBytes reader cursor endOffset length context state = (.ok result, after)) :
    result.2 = cursor + length := by
  obtain ⟨next, _, added, ran⟩ := bind_eq_ok.mp ran
  obtain ⟨_, rfl⟩ := checkedAdd_eq_some.mp (orFail_eq_ok.mp added).1
  obtain ⟨_, _, _, ran⟩ := bind_eq_ok.mp ran
  obtain ⟨_, _, _, ran⟩ := bind_eq_ok.mp ran
  obtain ⟨rfl, _⟩ := pure_eq_ok.mp ran
  rfl

theorem takeU16_returns {context : String} {state after : Extraction} {result : Nat × Nat}
    (ran : takeU16 reader cursor endOffset context state = (.ok result, after)) :
    result.2 = cursor + 2 := by
  obtain ⟨taken, _, first, ran⟩ := bind_eq_ok.mp ran
  obtain ⟨rfl, _⟩ := pure_eq_ok.mp ran
  exact takeBytes_returns first

theorem takeU32_returns {context : String} {state after : Extraction} {result : Nat × Nat}
    (ran : takeU32 reader cursor endOffset context state = (.ok result, after)) :
    result.2 = cursor + 4 := by
  obtain ⟨taken, _, first, ran⟩ := bind_eq_ok.mp ran
  obtain ⟨rfl, _⟩ := pure_eq_ok.mp ran
  exact takeBytes_returns first

theorem takeUint_returns {size : Nat} {context : String} {state after : Extraction}
    {result : Nat × Nat}
    (ran : takeUint reader cursor endOffset size context state = (.ok result, after)) :
    cursor ≤ result.2 := by
  unfold takeUint at ran
  split at ran
  · obtain ⟨rfl, _⟩ := pure_eq_ok.mp ran
    exact Nat.le_refl _
  · obtain ⟨taken, _, first, ran⟩ := bind_eq_ok.mp ran
    obtain ⟨_, _, _, ran⟩ := bind_eq_ok.mp ran
    obtain ⟨rfl, _⟩ := pure_eq_ok.mp ran
    rw [takeBytes_returns first]
    exact Nat.le_add_right _ _

/-- The head of an item takes at least a byte. -/
theorem takeItemHead_returns {state after : Extraction} {result : IlocItemHead × Nat}
    (ran : takeItemHead reader header widths cursor state = (.ok result, after)) :
    cursor < result.2 := by
  obtain ⟨⟨_, first⟩, _, itemId, ran⟩ := bind_eq_ok.mp ran
  obtain ⟨⟨_, second⟩, _, method, ran⟩ := bind_eq_ok.mp ran
  obtain ⟨⟨_, third⟩, _, reference, ran⟩ := bind_eq_ok.mp ran
  obtain ⟨⟨_, fourth⟩, _, base, ran⟩ := bind_eq_ok.mp ran
  obtain ⟨⟨_, fifth⟩, _, extents, ran⟩ := bind_eq_ok.mp ran
  obtain ⟨rfl, _⟩ := pure_eq_ok.mp ran
  have id : cursor < first := by
    unfold takeItemId at itemId
    split at itemId
    · have taken := takeU32_returns itemId
      dsimp only at taken
      omega
    · have taken := takeU16_returns itemId
      dsimp only at taken
      omega
  have construction : first ≤ second := by
    unfold takeConstructionMethod at method
    split at method
    · obtain ⟨taken, _, took, rest⟩ := bind_eq_ok.mp method
      obtain ⟨same, _⟩ := pure_eq_ok.mp rest
      cases same
      exact (takeU16_returns took) ▸ Nat.le_add_right _ _
    · obtain ⟨same, _⟩ := pure_eq_ok.mp method
      cases same
      exact Nat.le_refl _
  have data := takeU16_returns reference
  have start := takeUint_returns base
  have count := takeU16_returns extents
  dsimp only at data start count ⊢
  omega

theorem skipExtents_returns {itemOffset extentCount next : Nat} {state after : Extraction}
    (ran : skipExtents header widths itemOffset extentCount cursor state = (.ok next, after)) :
    cursor ≤ next ∧ next ≤ header.endOffset := by
  obtain ⟨_, _, _, ran⟩ := bind_eq_ok.mp ran
  obtain ⟨_, _, _, ran⟩ := bind_eq_ok.mp ran
  obtain ⟨_, _, _, ran⟩ := bind_eq_ok.mp ran
  obtain ⟨stop, _, added, ran⟩ := bind_eq_ok.mp ran
  obtain ⟨_, rfl⟩ := checkedAdd_eq_some.mp (orFail_eq_ok.mp added).1
  obtain ⟨_, _, inside, ran⟩ := bind_eq_ok.mp ran
  obtain ⟨rfl, _⟩ := pure_eq_ok.mp ran
  exact ⟨Nat.le_add_right _ _, of_decide_eq_true (ensure_eq_ok.mp inside).1⟩

theorem searchItem_returns {wantedItem next : Nat} {state after : Extraction}
    (ran : searchItem reader header widths wantedItem cursor state = (.ok (.inr next), after)) :
    cursor < next ∧ next ≤ header.endOffset := by
  obtain ⟨_, _, _, ran⟩ := bind_eq_ok.mp ran
  obtain ⟨⟨item, behind⟩, _, head, ran⟩ := bind_eq_ok.mp ran
  dsimp only at ran
  split at ran
  · obtain ⟨_, _, _, ran⟩ := bind_eq_ok.mp ran
    exact nomatch (pure_eq_ok.mp ran).1
  · obtain ⟨skipped, _, skip, ran⟩ := bind_eq_ok.mp ran
    obtain ⟨same, _⟩ := pure_eq_ok.mp ran
    cases same
    have bounds := skipExtents_returns skip
    exact ⟨Nat.lt_of_lt_of_le (takeItemHead_returns head) bounds.1, bounds.2⟩

end Locations

section LocationBoxes

variable {reader : MetadataReader} {header : BoxHeader} {widths : IlocWidths} {cursor : Nat}

theorem boxes_skipExtents (itemOffset extentCount cursor : Nat) :
    Keeps boxes (skipExtents header widths itemOffset extentCount cursor) :=
  keeps_bind (leaves_checkedAdd _ _ _ _) fun _ => keeps_bind (leaves_checkedAdd _ _ _ _) fun _ =>
    keeps_bind (leaves_checkedMul _ _ _ _) fun _ => keeps_bind (leaves_checkedAdd _ _ _ _) fun _ =>
    keeps_bind (leaves_ensure _ _) fun _ => leaves_pure _

section Kept

variable (keeps : reader.Keeps boxes)

include keeps

theorem boxes_takeBytes (cursor endOffset length : Nat) (context : String) :
    Keeps boxes (takeBytes reader cursor endOffset length context) :=
  keeps_bind (leaves_checkedAdd _ _ _ _) fun _ => keeps_bind (leaves_ensure _ _) fun _ =>
    keeps_bind (keeps.readVec _ _ _) fun _ => leaves_pure _

theorem boxes_takeU16 (cursor endOffset : Nat) (context : String) :
    Keeps boxes (takeU16 reader cursor endOffset context) :=
  keeps_bind (boxes_takeBytes keeps _ _ _ _) fun _ => leaves_pure _

theorem boxes_takeU32 (cursor endOffset : Nat) (context : String) :
    Keeps boxes (takeU32 reader cursor endOffset context) :=
  keeps_bind (boxes_takeBytes keeps _ _ _ _) fun _ => leaves_pure _

theorem boxes_takeUint (cursor endOffset size : Nat) (context : String) :
    Keeps boxes (takeUint reader cursor endOffset size context) := by
  unfold takeUint
  split
  · exact leaves_pure _
  · exact keeps_bind (boxes_takeBytes keeps _ _ _ _) fun _ =>
      keeps_bind reads_orFail.keeps fun _ => leaves_pure _

theorem boxes_takeItemHead (cursor : Nat) :
    Keeps boxes (takeItemHead reader header widths cursor) := by
  have itemId : ∀ cursor, Keeps boxes (takeItemId reader header widths cursor) := by
    intro cursor
    unfold takeItemId
    split
    · exact boxes_takeU32 keeps _ _ _
    · exact boxes_takeU16 keeps _ _ _
  have method : ∀ cursor, Keeps boxes (takeConstructionMethod reader header widths cursor) := by
    intro cursor
    unfold takeConstructionMethod
    split
    · exact keeps_bind (boxes_takeU16 keeps _ _ _) fun _ => leaves_pure _
    · exact leaves_pure _
  exact keeps_bind (itemId _) fun _ => keeps_bind (method _) fun _ =>
    keeps_bind (boxes_takeU16 keeps _ _ _) fun _ => keeps_bind (boxes_takeUint keeps _ _ _ _)
      fun _ => keeps_bind (boxes_takeU16 keeps _ _ _) fun _ => leaves_pure _

theorem boxes_readLocation (itemOffset : Nat) (item : IlocItemHead) (cursor : Nat) :
    Keeps boxes (readLocation reader header widths itemOffset item cursor) := by
  have skip : ∀ cursor, Keeps boxes (skipExtentIndex reader header widths cursor) := by
    intro cursor
    unfold skipExtentIndex
    split
    · exact keeps_bind (boxes_takeBytes keeps _ _ _ _) fun _ => leaves_pure _
    · exact leaves_pure _
  exact keeps_bind (leaves_ensure _ _) fun _ => keeps_bind (leaves_ensure _ _) fun _ =>
    keeps_bind (leaves_ensure _ _) fun _ => keeps_bind (skip _) fun _ =>
    keeps_bind (boxes_takeUint keeps _ _ _ _) fun _ =>
    keeps_bind (boxes_takeUint keeps _ _ _ _) fun _ => keeps_bind (leaves_ensure _ _) fun _ =>
    keeps_bind (leaves_checkedAdd _ _ _ _) fun _ => leaves_pure _

end Kept

variable (counts : reader.CountsBoxes)

include counts

theorem adds_searchItem (wantedItem cursor : Nat) :
    Adds boxes 1 (searchItem reader header widths wantedItem cursor) := by
  refine (counts.visitBmffBox _).bind (fun _ _ _ _ => ?_) (Nat.add_zero 1).le
  refine Keeps.adds (keeps_bind (boxes_takeItemHead counts.keeps _) fun item => ?_)
  dsimp only
  split
  · exact keeps_bind (boxes_readLocation counts.keeps _ _ _) fun _ => leaves_pure _
  · exact keeps_bind (boxes_skipExtents _ _ _) fun _ => leaves_pure _

/-- The cursor moves on with every item, and never past the end of the box. -/
theorem adds_searchItems (wantedItem count : Nat) : ∀ cursor,
    Adds boxes (header.endOffset - cursor + 1)
      (searchItems reader header widths wantedItem count cursor) := by
  induction count with
  | zero => exact fun cursor => Keeps.adds (leaves_fail _)
  | succ count ih =>
      intro cursor
      refine (adds_searchItem counts wantedItem cursor).bind (fun found state after ran => ?_)
        (Nat.add_comm 1 (header.endOffset - cursor)).le
      cases found with
      | inl location => exact Keeps.adds (leaves_pure _)
      | inr next =>
          have bounds := searchItem_returns ran
          exact (ih next).mono (by omega)

theorem adds_findItemLocation (header : BoxHeader) (wantedItem : Nat) :
    Adds boxes header.room (findItemLocation reader header wantedItem) := by
  refine (boxes_payloadLen header).adds_bind fun length _ _ ran => ?_
  obtain rfl := payloadLen_returns ran
  refine Keeps.adds_bind (leaves_ensure _ _) fun _ _ _ long => ?_
  have long : 8 ≤ header.room := of_decide_eq_true (ensure_eq_ok.mp long).1
  refine Keeps.adds_bind (counts.keeps.readVec _ _ _) fun head _ _ _ => ?_
  have widthsKept : Keeps boxes (readWidths head header.payloadOffset) :=
    keeps_bind (leaves_ensure _ _) fun _ => keeps_bind (leaves_ensure _ _) fun _ => leaves_pure _
  refine widthsKept.adds_bind fun widths _ _ _ => ?_
  have counted : Keeps boxes (readItemCount reader header head widths.version) := by
    unfold readItemCount
    split
    · exact keeps_bind (leaves_checkedAdd _ _ _ _) fun _ =>
        keeps_bind (leaves_checkedAdd _ _ _ _) fun _ => keeps_bind (leaves_ensure _ _) fun _ =>
        keeps_bind (counts.keeps.readVec _ _ _) fun _ => leaves_pure _
    · exact keeps_bind (leaves_checkedAdd _ _ _ _) fun _ => leaves_pure _
  refine counted.adds_bind ?_
  rintro ⟨itemCount, cursor⟩ _ _ start
  have behind : header.payloadOffset + 8 ≤ cursor := by
    unfold readItemCount at start
    split at start
    · obtain ⟨_, _, added, start⟩ := bind_eq_ok.mp start
      obtain ⟨_, rfl⟩ := checkedAdd_eq_some.mp (orFail_eq_ok.mp added).1
      obtain ⟨_, _, added, start⟩ := bind_eq_ok.mp start
      obtain ⟨_, rfl⟩ := checkedAdd_eq_some.mp (orFail_eq_ok.mp added).1
      obtain ⟨_, _, _, start⟩ := bind_eq_ok.mp start
      obtain ⟨_, _, _, start⟩ := bind_eq_ok.mp start
      cases (pure_eq_ok.mp start).1
      omega
    · obtain ⟨_, _, added, start⟩ := bind_eq_ok.mp start
      obtain ⟨_, rfl⟩ := checkedAdd_eq_some.mp (orFail_eq_ok.mp added).1
      cases (pure_eq_ok.mp start).1
      exact Nat.le_refl _
  refine (adds_searchItems counts wantedItem itemCount cursor).mono ?_
  unfold BoxHeader.room at long ⊢
  omega

end LocationBoxes

namespace Bmff

/-! ## The boxes of a range -/

section Loops

variable {reader : MetadataReader} {α : Type}

section Kept

variable (keeps : reader.Keeps boxes)

include keeps

theorem boxes_boxSize (offset parentEnd minimumEnd size32 : Nat) :
    Keeps boxes (boxSize reader offset parentEnd minimumEnd size32) := by
  unfold boxSize
  split
  · exact keeps_bind (leaves_checkedSub _ _ _ _) fun _ => leaves_pure _
  split
  · exact keeps_bind (leaves_checkedAdd _ _ _ _) fun _ => keeps_bind (leaves_ensure _ _) fun _ =>
      keeps_bind (keeps.readVec _ _ _) fun _ => leaves_pure _
  · exact leaves_pure _

end Kept

theorem boxes_boxWithin (offset parentEnd : Nat) (boxType : BoxType) (extended : Bool)
    (size : Nat) : Keeps boxes (boxWithin offset parentEnd boxType extended size) := by
  unfold boxWithin
  split
  · exact leaves_fail _
  split
  · exact leaves_fail _
  split
  · exact leaves_fail _
  · exact leaves_pure _

variable (counts : reader.CountsBoxes)

include counts

/-- A header counts as one box, also when the box turns out to be malformed. -/
theorem adds_readBoxHeader (offset parentEnd : Nat) :
    Adds boxes 1 (readBoxHeader reader offset parentEnd) := by
  refine Keeps.adds_bind (leaves_ensure _ _) fun _ _ _ _ => ?_
  refine Keeps.adds_bind (leaves_checkedAdd _ _ _ _) fun _ _ _ _ => ?_
  refine Keeps.adds_bind (leaves_ensure _ _) fun _ _ _ _ => ?_
  refine Keeps.adds_bind (counts.keeps.readVec _ _ _) fun basic _ _ _ => ?_
  refine (counts.visitBmffBox _).bind (fun _ _ _ _ => ?_) (Nat.add_zero 1).le
  exact Keeps.adds (keeps_bind (boxes_boxSize counts.keeps _ _ _ _) fun size =>
    boxes_boxWithin _ _ _ _ _)

/-- Where a box costs no more than its payload has bytes, the loop costs no more than its range. -/
theorem adds_forBoxes {visit : BoxHeader → α → Parse α}
    (visits : ∀ header found, Adds boxes header.room (visit header found)) :
    ∀ (size cursor stop : Nat) (found : α), stop - cursor ≤ size →
      Adds boxes (stop - cursor) (forBoxes reader visit cursor stop found) := by
  intro size
  induction size with
  | zero =>
      intro cursor stop found none
      rw [forBoxes, dif_neg (by omega)]
      exact Keeps.adds (leaves_pure _)
  | succ size ih =>
      intro cursor stop found bounded
      rw [forBoxes]
      split
      · rename_i inFront
        have rest : 1 + (stop - cursor - 1) ≤ stop - cursor := by omega
        refine (adds_readBoxHeader counts cursor stop).bind (fun box _ _ _ => ?_) rest
        have header := box.header_le
        have payload := box.payload_le
        have inside := box.inside
        simp only [boxHeaderBytes] at header
        have sum : box.header.room + (stop - box.header.endOffset) ≤ stop - cursor - 1 := by
          unfold BoxHeader.room
          omega
        exact (visits box.header found).bind
          (fun found _ _ _ => ih box.header.endOffset stop found (by omega)) sum
      · exact Keeps.adds (leaves_pure _)

theorem adds_findInBoxes {visit : BoxHeader → Parse (Option α)}
    (visits : ∀ header, Adds boxes header.room (visit header)) :
    ∀ (size cursor stop : Nat), stop - cursor ≤ size →
      Adds boxes (stop - cursor) (findInBoxes reader visit cursor stop) := by
  intro size
  induction size with
  | zero =>
      intro cursor stop none
      rw [findInBoxes, dif_neg (by omega)]
      exact Keeps.adds (leaves_pure _)
  | succ size ih =>
      intro cursor stop bounded
      rw [findInBoxes]
      split
      · rename_i inFront
        have rest : 1 + (stop - cursor - 1) ≤ stop - cursor := by omega
        refine (adds_readBoxHeader counts cursor stop).bind (fun box _ _ _ => ?_) rest
        have header := box.header_le
        have payload := box.payload_le
        have inside := box.inside
        simp only [boxHeaderBytes] at header
        have sum : box.header.room + (stop - box.header.endOffset) ≤ stop - cursor - 1 := by
          unfold BoxHeader.room
          omega
        refine (visits box.header).bind (fun found _ _ _ => ?_) sum
        cases found with
        | some found => exact Keeps.adds (leaves_pure _)
        | none => exact ih box.header.endOffset stop (by omega)
      · exact Keeps.adds (leaves_pure _)

omit counts in
/-- What every box keeps of what was made of those before it holds behind the last one. -/
theorem forBoxes_returns {visit : BoxHeader → α → Parse α} {Holds : Nat → α → Prop}
    {first stop : Nat}
    (step : ∀ (cursor : Nat) (box : BoxIn cursor stop) (found next : α) (state after : Extraction),
      first ≤ cursor → Holds cursor found → visit box.header found state = (.ok next, after) →
      Holds box.header.endOffset next) :
    ∀ (size cursor : Nat) (found last : α) (state after : Extraction), stop - cursor ≤ size →
      first ≤ cursor → Holds cursor found →
      forBoxes reader visit cursor stop found state = (.ok last, after) →
      ∃ ended, ended ≤ max cursor stop ∧ Holds ended last := by
  intro size
  induction size with
  | zero =>
      intro cursor found last state after none _ holds ran
      rw [forBoxes, dif_neg (by omega)] at ran
      obtain ⟨rfl, _⟩ := pure_eq_ok.mp ran
      exact ⟨cursor, Nat.le_max_left _ _, holds⟩
  | succ size ih =>
      intro cursor found last state after bounded start holds ran
      rw [forBoxes] at ran
      split at ran
      · obtain ⟨box, _, _, ran⟩ := bind_eq_ok.mp ran
        obtain ⟨next, _, visited, ran⟩ := bind_eq_ok.mp ran
        have header := box.header_le
        have payload := box.payload_le
        have inside := box.inside
        simp only [boxHeaderBytes] at header
        have stepped := step cursor box found next _ _ start holds visited
        obtain ⟨ended, early, holds⟩ := ih box.header.endOffset next last _ _ (by omega)
          (by omega) stepped ran
        exact ⟨ended, by omega, holds⟩
      · obtain ⟨rfl, _⟩ := pure_eq_ok.mp ran
        exact ⟨cursor, Nat.le_max_left _ _, holds⟩

end Loops

/-! ## Boxes that are read -/

section Reads

variable {reader : MetadataReader} (keeps : reader.Keeps boxes)

theorem boxes_deeper (depth offset : Nat) (context : String) :
    Keeps boxes (deeper depth offset context) := reads_orFail.keeps

include keeps

theorem boxes_observeNesting (depth offset : Nat) :
    Keeps boxes (observeNesting reader depth offset) := keeps.observeDepth _ _ _ _

theorem boxes_metaChildrenStart (header : BoxHeader) :
    Keeps boxes (metaChildrenStart reader header) := by
  refine keeps_bind (boxes_payloadLen header) fun payloadLen => ?_
  split
  · refine keeps_bind (keeps.readVec _ _ _) fun probe => ?_
    split
    · exact leaves_pure _
    · exact keeps_bind (leaves_ensure _ _) fun _ => leaves_checkedAdd _ _ _ _
  split
  · exact keeps_bind (keeps.readVec _ _ _) fun _ => keeps_bind (leaves_ensure _ _) fun _ =>
      leaves_checkedAdd _ _ _ _
  · exact leaves_fail _

theorem boxes_parseMvhd (header : BoxHeader) (path : List BoxType) :
    Keeps boxes (parseMvhd reader header path) := by
  have layout : ∀ version, Keeps boxes (mvhdLayout header version) := by
    intro version
    unfold mvhdLayout
    split
    · exact leaves_pure _
    split
    · exact leaves_pure _
    · exact leaves_fail _
  exact keeps_bind (boxes_payloadLen header) fun _ => keeps_bind (leaves_ensure _ _) fun _ =>
    keeps_bind (keeps.readVec _ _ _) fun _ => keeps_bind (layout _) fun _ =>
    keeps_bind (leaves_ensure _ _) fun _ => keeps_bind (leaves_checkedAdd _ _ _ _) fun _ =>
    keeps_bind (keeps.readFieldBytes _ _) fun _ => keeps.pushField _

theorem boxes_isCreationDate (cursor : Nat) (entryHeader : List UInt8) (keyLength : Nat) :
    Keeps boxes (isCreationDate reader cursor entryHeader keyLength) := by
  unfold isCreationDate
  split
  · exact keeps_bind (leaves_checkedAdd _ _ _ _) fun _ => keeps_bind (keeps.readVec _ _ _)
      fun _ => leaves_pure _
  · exact leaves_pure _

theorem boxes_parseData (path : List BoxType) (data : BoxHeader) (found : Unit) :
    Keeps boxes (parseData reader path data found) := by
  unfold parseData
  split
  · exact keeps_bind (boxes_payloadLen data) fun _ => keeps_bind (leaves_ensure _ _) fun _ =>
      keeps_bind (keeps.readVec _ _ _) fun _ => keeps_bind (leaves_ensure _ _) fun _ =>
      keeps_bind (leaves_checkedAdd _ _ _ _) fun _ => keeps_bind (leaves_checkedSub _ _ _ _)
      fun _ => keeps_bind (keeps.readFieldBytes _ _) fun _ => keeps_bind (leaves_ensure _ _)
      fun _ => keeps.pushField _
  · exact leaves_pure _

theorem boxes_parseLegacyCopyrightDay (header : BoxHeader) (path : List BoxType) :
    Keeps boxes (parseLegacyCopyrightDay reader header path) :=
  keeps_bind (boxes_payloadLen header) fun _ => keeps_bind (leaves_ensure _ _) fun _ =>
    keeps_bind (keeps.readVec _ _ _) fun _ => keeps_bind (leaves_ensure _ _) fun _ =>
    keeps_bind (leaves_checkedAdd _ _ _ _) fun _ => keeps_bind (leaves_checkedAdd _ _ _ _)
    fun _ => keeps_bind (leaves_ensure _ _) fun _ => keeps_bind (keeps.readFieldBytes _ _)
    fun _ => keeps_bind (leaves_ensure _ _) fun _ => keeps.pushField _

theorem boxes_exifItemId (entry : BoxHeader) : Keeps boxes (exifItemId reader entry) := by
  have item : ∀ payloadLen length idBytes,
      Keeps boxes (readItemEntry reader entry payloadLen length idBytes) :=
    fun _ _ _ => keeps_bind (leaves_ensure _ _) fun _ => keeps_bind (keeps.readVec _ _ _)
      fun _ => leaves_pure _
  have typed : ∀ payloadLen version,
      Keeps boxes (readTypedEntry reader entry payloadLen version) := by
    intro payloadLen version
    unfold readTypedEntry
    split
    · exact leaves_pure _
    split
    · exact keeps_bind (item _ _ _) fun _ => leaves_pure _
    split
    · exact keeps_bind (item _ _ _) fun _ => leaves_pure _
    · exact leaves_fail _
  refine keeps_bind (boxes_payloadLen entry) fun _ => keeps_bind (leaves_ensure _ _) fun _ =>
    keeps_bind (keeps.readVec _ _ _) fun _ => keeps_bind (typed _ _) fun item => ?_
  cases item with
  | none => exact leaves_pure _
  | some item =>
      dsimp only
      split
      · exact keeps_bind (leaves_ensure _ _) fun _ => leaves_pure _
      · exact leaves_pure _

theorem boxes_extractExifItem (location : ItemLocation) :
    Keeps boxes (extractExifItem reader location) :=
  keeps_bind (leaves_checkedAdd _ _ _ _) fun _ => keeps_bind (leaves_ensure _ _) fun _ =>
    keeps_bind (leaves_ensure _ _) fun _ => keeps_bind (keeps.readVec _ _ _) fun _ =>
    keeps_bind (leaves_checkedAdd _ _ _ _) fun _ => keeps_bind (leaves_checkedAdd _ _ _ _)
    fun _ => keeps_bind (leaves_ensure _ _) fun _ => Tiff.boxes_parseInRange keeps _ _ _

theorem boxes_collectItems (child : BoxHeader) (items : MetaItems) :
    Keeps boxes (collectItems reader child items) := by
  have handler : Keeps boxes (readHandlerType reader child) := by
    refine keeps_bind (boxes_payloadLen child) fun _ => ?_
    split
    · exact leaves_pure _
    · exact keeps_bind (keeps.readVec _ _ _) fun _ => leaves_pure _
  unfold collectItems
  split
  · exact keeps_bind handler fun _ => leaves_pure _
  split
  · exact leaves_pure _
  split
  · exact leaves_pure _
  · exact leaves_pure _

end Reads

/-- The children of a `meta` box start in its payload. -/
theorem metaChildrenStart_returns {reader : MetadataReader} {header : BoxHeader} {start : Nat}
    {state after : Extraction}
    (ran : metaChildrenStart reader header state = (.ok start, after)) :
    header.payloadOffset ≤ start := by
  have behind : ∀ {state after : Extraction},
      checkedAdd header.payloadOffset fullBoxHeaderBytes (some header.payloadOffset)
        "meta children offset overflow" state = (.ok start, after) →
      header.payloadOffset ≤ start := by
    intro state after added
    obtain ⟨_, rfl⟩ := checkedAdd_eq_some.mp (orFail_eq_ok.mp added).1
    exact Nat.le_add_right _ _
  obtain ⟨payloadLen, _, _, ran⟩ := bind_eq_ok.mp ran
  split at ran
  · obtain ⟨probe, _, _, ran⟩ := bind_eq_ok.mp ran
    split at ran
    · obtain ⟨rfl, _⟩ := pure_eq_ok.mp ran
      exact Nat.le_refl _
    · obtain ⟨_, _, _, ran⟩ := bind_eq_ok.mp ran
      exact behind ran
  split at ran
  · obtain ⟨_, _, _, ran⟩ := bind_eq_ok.mp ran
    obtain ⟨_, _, _, ran⟩ := bind_eq_ok.mp ran
    exact behind ran
  · exact (fail_eq_ok.mp ran).elim

/-! ## Boxes that are walked -/

section Walked

variable {reader : MetadataReader} (counts : reader.CountsBoxes)

/-- A key takes at least the eight bytes of its entry's head, inside the box. -/
theorem parseKey_returns {header : BoxHeader} {cursor : Nat} {result : Bool × Nat}
    {state after : Extraction}
    (ran : parseKey reader header cursor state = (.ok result, after)) :
    cursor < result.2 ∧ result.2 ≤ header.endOffset := by
  obtain ⟨_, _, _, ran⟩ := bind_eq_ok.mp ran
  obtain ⟨_, _, _, ran⟩ := bind_eq_ok.mp ran
  obtain ⟨_, _, _, ran⟩ := bind_eq_ok.mp ran
  obtain ⟨entryHeader, _, _, ran⟩ := bind_eq_ok.mp ran
  obtain ⟨_, _, size, ran⟩ := bind_eq_ok.mp ran
  obtain ⟨entryEnd, _, added, ran⟩ := bind_eq_ok.mp ran
  obtain ⟨_, rfl⟩ := checkedAdd_eq_some.mp (orFail_eq_ok.mp added).1
  obtain ⟨_, _, inside, ran⟩ := bind_eq_ok.mp ran
  obtain ⟨_, _, _, ran⟩ := bind_eq_ok.mp ran
  obtain ⟨_, _, _, ran⟩ := bind_eq_ok.mp ran
  obtain ⟨rfl, _⟩ := pure_eq_ok.mp ran
  have long : 8 ≤ readBigEndian (entryHeader.take 4) := of_decide_eq_true (ensure_eq_ok.mp size).1
  exact ⟨Nat.lt_add_of_pos_right (by omega), of_decide_eq_true (ensure_eq_ok.mp inside).1⟩

include counts

theorem adds_parseKeyEntries (header : BoxHeader) (count : Nat) : ∀ cursor recognized,
    Adds boxes (header.endOffset - cursor + 1)
      (parseKeyEntries reader header count cursor recognized) := by
  have keeps := counts.keeps
  induction count with
  | zero => exact fun _ _ => Keeps.adds (leaves_pure _)
  | succ count ih =>
      intro cursor recognized
      have key : Adds boxes 1 (parseKey reader header cursor) := by
        refine (counts.visitBmffBox _).bind (fun _ _ _ _ => ?_) (Nat.add_zero 1).le
        exact Keeps.adds (keeps_bind (leaves_checkedAdd _ _ _ _) fun _ =>
          keeps_bind (leaves_ensure _ _) fun _ => keeps_bind (keeps.readVec _ _ _) fun _ =>
          keeps_bind (leaves_ensure _ _) fun _ => keeps_bind (leaves_checkedAdd _ _ _ _) fun _ =>
          keeps_bind (leaves_ensure _ _) fun _ => keeps_bind (leaves_checkedSub _ _ _ _) fun _ =>
          keeps_bind (boxes_isCreationDate keeps _ _ _) fun _ => leaves_pure _)
      refine key.bind (fun found state after ran => ?_)
        (Nat.add_comm 1 (header.endOffset - cursor)).le
      have bounds := parseKey_returns ran
      exact (ih found.2 _).mono (by omega)

theorem adds_parseKeys (header : BoxHeader) : Adds boxes header.room (parseKeys reader header) := by
  refine (boxes_payloadLen header).adds_bind fun length _ _ ran => ?_
  obtain rfl := payloadLen_returns ran
  refine Keeps.adds_bind (leaves_ensure _ _) fun _ _ _ long => ?_
  have long : 8 ≤ header.room := of_decide_eq_true (ensure_eq_ok.mp long).1
  refine Keeps.adds_bind (counts.keeps.readVec _ _ _) fun head _ _ _ => ?_
  refine Keeps.adds_bind (leaves_ensure _ _) fun _ _ _ _ => ?_
  refine Keeps.adds_bind (leaves_ensure _ _) fun _ _ _ _ => ?_
  refine Keeps.adds_bind (leaves_checkedAdd _ _ _ _) fun start _ _ added => ?_
  obtain ⟨_, rfl⟩ := checkedAdd_eq_some.mp (orFail_eq_ok.mp added).1
  refine (adds_parseKeyEntries counts header _ _ _).bind (fun _ _ _ _ => Keeps.adds
    (keeps_bind (leaves_ensure _ _) fun _ => leaves_pure _)) (?_ : _ + 0 ≤ _)
  unfold BoxHeader.room at long ⊢
  omega

theorem adds_parseMetadataItem (item : BoxHeader) (parentDepth : Nat) (path : List BoxType) :
    Adds boxes item.room (parseMetadataItem reader item parentDepth path) := by
  refine (boxes_deeper _ _ _).adds_bind fun _ _ _ _ => ?_
  refine (boxes_observeNesting counts.keeps _ _).adds_bind fun _ _ _ _ => ?_
  exact adds_forBoxes counts (fun _ _ => Keeps.adds (boxes_parseData counts.keeps _ _ _)) _ _ _ _
    (Nat.le_refl _)

theorem adds_parseIlst (header : BoxHeader) (parentDepth : Nat) (recognizedKeys : List Bool)
    (path : List BoxType) :
    Adds boxes header.room (parseIlst reader header parentDepth recognizedKeys path) := by
  refine (boxes_deeper _ _ _).adds_bind fun depth _ _ _ => ?_
  refine (boxes_observeNesting counts.keeps _ _).adds_bind fun _ _ _ _ => ?_
  refine adds_forBoxes counts (fun item _ => ?_) _ _ _ _ (Nat.le_refl _)
  unfold parseItem
  split
  · exact adds_parseMetadataItem counts item depth _
  · exact Keeps.adds (leaves_pure _)

theorem adds_parseIlsts (depth : Nat) (recognizedKeys : List Bool) (path : List BoxType)
    (children : List BoxHeader) :
    Adds boxes (children.map BoxHeader.room).sum
      (parseIlsts reader depth recognizedKeys path children) := by
  induction children with
  | nil => exact Keeps.adds (leaves_pure _)
  | cons child children ih =>
      rw [List.map_cons, List.sum_cons]
      unfold parseIlsts
      split
      · exact (adds_parseIlst counts child depth recognizedKeys _).bind (fun _ _ _ _ => ih)
          (Nat.le_refl _)
      · exact (leaves_pure ()).adds_bind fun _ _ _ _ => ih.mono (Nat.le_add_left _ _)

theorem adds_readChildren (cursor stop : Nat) :
    Adds boxes (stop - cursor) (readChildren reader cursor stop) :=
  adds_forBoxes counts (fun _ _ => Keeps.adds (leaves_pure _)) _ _ _ _ (Nat.le_refl _)

omit counts in
/-- The children of a range have no more payload between them than the range has bytes. -/
theorem readChildren_returns {cursor stop : Nat} {children : List BoxHeader}
    {state after : Extraction}
    (ran : readChildren reader cursor stop state = (.ok children, after)) :
    (children.map BoxHeader.room).sum ≤ stop - cursor := by
  have step : ∀ (at_ : Nat) (box : BoxIn at_ stop) (found next : List BoxHeader)
      (state after : Extraction), cursor ≤ at_ →
      (found.map BoxHeader.room).sum ≤ at_ - cursor →
      (pure (found ++ [box.header]) : Parse (List BoxHeader)) state = (.ok next, after) →
      (next.map BoxHeader.room).sum ≤ box.header.endOffset - cursor := by
    intro at_ box found next state after begun holds ran
    obtain ⟨rfl, _⟩ := pure_eq_ok.mp ran
    have header := box.header_le
    have payload := box.payload_le
    simp only [boxHeaderBytes] at header
    simp only [List.map_append, List.sum_append, List.map_cons, List.map_nil, List.sum_cons,
      List.sum_nil, BoxHeader.room]
    omega
  obtain ⟨ended, early, holds⟩ := forBoxes_returns step _ cursor [] children state after
    (Nat.le_refl _) (Nat.le_refl _) (by simp) ran
  exact holds.trans (by omega)

theorem adds_recognizedKeysOf {children : List BoxHeader} :
    Adds boxes (children.map BoxHeader.room).sum (recognizedKeysOf reader children) := by
  unfold recognizedKeysOf
  cases found : children.find? (·.boxType = .keys) with
  | none => exact Keeps.adds (leaves_pure _)
  | some child =>
      have listed := List.mem_of_find?_eq_some found
      exact (adds_parseKeys counts child).mono
        (List.single_le_sum (by simp) _ (List.mem_map_of_mem listed))

theorem adds_parseMeta (header : BoxHeader) (parentDepth : Nat) (path : List BoxType) :
    Adds boxes (3 * header.room) (parseMeta reader header parentDepth path) := by
  refine (boxes_metaChildrenStart counts.keeps header).adds_bind fun start _ _ began => ?_
  refine (boxes_deeper _ _ _).adds_bind fun depth _ _ _ => ?_
  refine (boxes_observeNesting counts.keeps _ _).adds_bind fun _ _ _ _ => ?_
  have inside : header.endOffset - start ≤ header.room := by
    have behind := metaChildrenStart_returns began
    unfold BoxHeader.room
    omega
  have three : header.room + (header.room + header.room) ≤ 3 * header.room := by omega
  refine ((adds_readChildren counts _ _).mono inside).bind (fun children _ _ read => ?_) three
  have sum := (readChildren_returns read).trans inside
  refine ((adds_recognizedKeysOf counts).mono sum).bind (fun keys _ _ _ => ?_) (Nat.le_refl _)
  exact (adds_parseIlsts counts depth keys path children).mono sum

theorem adds_findExifItem (header : BoxHeader) :
    Adds boxes header.room (findExifItem reader header) := by
  have keeps := counts.keeps
  refine (boxes_payloadLen header).adds_bind fun length _ _ _ => ?_
  refine Keeps.adds_bind (leaves_ensure _ _) fun _ _ _ _ => ?_
  refine Keeps.adds_bind (keeps.readVec _ _ _) fun head _ _ _ => ?_
  have countBytes : Keeps boxes (itemCountBytes header (head.getD 0 0)) := by
    unfold itemCountBytes
    split
    · exact leaves_pure _
    split
    · exact leaves_pure _
    · exact leaves_fail _
  refine countBytes.adds_bind fun _ _ _ _ => ?_
  refine Keeps.adds_bind (leaves_checkedAdd _ _ _ _) fun _ _ _ _ => ?_
  refine Keeps.adds_bind (leaves_checkedAdd _ _ _ _) fun start _ _ added => ?_
  obtain ⟨_, rfl⟩ := checkedAdd_eq_some.mp (orFail_eq_ok.mp added).1
  refine Keeps.adds_bind (leaves_ensure _ _) fun _ _ _ _ => ?_
  refine (adds_findInBoxes counts (fun entry => ?_) _ _ _ (Nat.le_refl _)).mono ?_
  · unfold visitItemInfo
    split
    · exact Keeps.adds (boxes_exifItemId keeps entry)
    · exact Keeps.adds (leaves_pure _)
  · unfold BoxHeader.room
    omega

omit counts in
/-- The boxes that describe the items are children, so no larger than the range. -/
theorem collectItems_returns {cursor stop : Nat} {items : MetaItems} {state after : Extraction}
    (ran : forBoxes reader (collectItems reader) cursor stop {} state = (.ok items, after)) :
    (∀ info, items.itemInfo = some info → info.room ≤ stop - cursor) ∧
      ∀ location, items.itemLocation = some location → location.room ≤ stop - cursor := by
  have step : ∀ (at_ : Nat) (box : BoxIn at_ stop) (found next : MetaItems)
      (state after : Extraction), cursor ≤ at_ →
      ((∀ info, found.itemInfo = some info → info.room ≤ at_ - cursor) ∧
        ∀ location, found.itemLocation = some location → location.room ≤ at_ - cursor) →
      collectItems reader box.header found state = (.ok next, after) →
      (∀ info, next.itemInfo = some info → info.room ≤ box.header.endOffset - cursor) ∧
        ∀ location, next.itemLocation = some location →
          location.room ≤ box.header.endOffset - cursor := by
    intro at_ box found next state after begun holds ran
    have header := box.header_le
    have payload := box.payload_le
    simp only [boxHeaderBytes] at header
    have old : (∀ info, found.itemInfo = some info →
        info.room ≤ box.header.endOffset - cursor) ∧
        ∀ location, found.itemLocation = some location →
          location.room ≤ box.header.endOffset - cursor :=
      ⟨fun info same => (holds.1 info same).trans (by omega),
        fun location same => (holds.2 location same).trans (by omega)⟩
    have own : box.header.room ≤ box.header.endOffset - cursor := by
      unfold BoxHeader.room
      omega
    unfold collectItems at ran
    split at ran
    · obtain ⟨_, _, _, ran⟩ := bind_eq_ok.mp ran
      obtain ⟨rfl, _⟩ := pure_eq_ok.mp ran
      exact old
    split at ran
    · obtain ⟨rfl, _⟩ := pure_eq_ok.mp ran
      exact ⟨fun info same => Option.some.inj same ▸ own, old.2⟩
    split at ran
    · obtain ⟨rfl, _⟩ := pure_eq_ok.mp ran
      exact ⟨old.1, fun location same => Option.some.inj same ▸ own⟩
    · obtain ⟨rfl, _⟩ := pure_eq_ok.mp ran
      exact old
  obtain ⟨ended, early, infos, locations⟩ := forBoxes_returns step _ cursor {} items state after
    (Nat.le_refl _) (Nat.le_refl _) ⟨nofun, nofun⟩ ran
  exact ⟨fun info same => (infos info same).trans (by omega),
    fun location same => (locations location same).trans (by omega)⟩

theorem adds_parseRootMeta (header : BoxHeader) (parentDepth : Nat) :
    Adds boxes (3 * header.room) (parseRootMeta reader header parentDepth) := by
  refine (boxes_metaChildrenStart counts.keeps header).adds_bind fun start _ _ began => ?_
  refine (boxes_deeper _ _ _).adds_bind fun depth _ _ _ => ?_
  refine (boxes_observeNesting counts.keeps _ _).adds_bind fun _ _ _ _ => ?_
  have inside : header.endOffset - start ≤ header.room := by
    have behind := metaChildrenStart_returns began
    unfold BoxHeader.room
    omega
  have three : header.room + (header.room + header.room) ≤ 3 * header.room := by omega
  refine ((adds_forBoxes counts (fun _ _ => Keeps.adds (boxes_collectItems counts.keeps _ _)) _ _
    _ _ (Nat.le_refl _)).mono inside).bind (fun items _ _ collected => ?_) three
  have within := collectItems_returns collected
  split
  · cases info : items.itemInfo with
    | none => exact Keeps.adds (leaves_pure _)
    | some found =>
        have small := (within.1 found info).trans inside
        refine ((adds_findExifItem counts found).mono small).bind (fun exifItem _ _ _ => ?_)
          (Nat.le_refl _)
        cases exifItem with
        | none => exact Keeps.adds (leaves_pure _)
        | some exifItem =>
            dsimp only [extractItem]
            cases location : items.itemLocation with
            | none => exact Keeps.adds (leaves_fail _)
            | some locationBox =>
                have small := (within.2 locationBox location).trans inside
                refine ((adds_findItemLocation counts locationBox exifItem).mono small).bind
                  (fun place _ _ _ => Keeps.adds (boxes_extractExifItem counts.keeps place))
                  (Nat.add_zero _).le
  · exact Keeps.adds (leaves_pure _)

theorem adds_handleBox (context : WalkContext) (header : BoxHeader) (depth : Nat)
    (path : List BoxType) : Adds boxes (3 * header.room)
      (handleBox reader context header depth path) := by
  have keeps := counts.keeps
  cases context with
  | root =>
      dsimp only [handleBox]
      split
      · exact adds_parseRootMeta counts header depth
      · exact Keeps.adds (leaves_pure _)
  | movie =>
      dsimp only [handleBox]
      split
      · exact Keeps.adds (boxes_parseMvhd keeps header path)
      split
      · exact adds_parseMeta counts header depth path
      · exact Keeps.adds (leaves_pure _)
  | userData =>
      dsimp only [handleBox]
      split
      · exact adds_parseMeta counts header depth path
      split
      · exact Keeps.adds (boxes_parseLegacyCopyrightDay keeps header path)
      · exact Keeps.adds (leaves_pure _)

theorem adds_isolated {bound : Nat} {program : Parse Unit} (inner : Adds boxes bound program) :
    Adds boxes bound (isolated program) := by
  have attempted : Adds boxes bound (attempt program : Parse (Except ParseError Unit)) := inner
  refine attempted.bind (fun result _ _ _ => Keeps.adds ?_) (Nat.add_zero _).le
  exact leaves_isolate counts.keeps.pushIssue result

/-- The walk of a range visits at most three boxes for each of its bytes. -/
theorem adds_walkBoxes : ∀ (size cursor stop depth : Nat) (context : WalkContext)
    (path : List BoxType), stop - cursor ≤ size →
    Adds boxes (3 * (stop - cursor)) (walkBoxes reader cursor stop depth context path) := by
  intro size
  induction size with
  | zero =>
      intro cursor stop depth context path none
      rw [walkBoxes, dif_neg (by omega)]
      exact Keeps.adds (leaves_pure _)
  | succ size ih =>
      intro cursor stop depth context path bounded
      rw [walkBoxes]
      split
      · rename_i inFront
        have attempted : Adds boxes 1 (attempt (readBoxHeader reader cursor stop) :
            Parse (Except ParseError (BoxIn cursor stop))) := adds_readBoxHeader counts cursor stop
        have rest : 1 + (3 * (stop - cursor) - 1) ≤ 3 * (stop - cursor) := by omega
        refine attempted.bind (fun result _ _ _ => ?_) rest
        cases result with
        | error error => exact Keeps.adds (leaves_isolate counts.keeps.pushIssue (.error error))
        | ok box =>
            have header := box.header_le
            have payload := box.payload_le
            have inside := box.inside
            simp only [boxHeaderBytes] at header
            have sum : 3 * box.header.room + 3 * (stop - box.header.endOffset) ≤
                3 * (stop - cursor) - 1 := by
              unfold BoxHeader.room
              omega
            dsimp only
            refine (adds_isolated counts ?_).bind (fun _ _ _ _ =>
              ih box.header.endOffset stop depth context path (by omega)) sum
            split
            · refine (boxes_deeper _ _ _).adds_bind fun childDepth _ _ _ => ?_
              rw [walkRange]
              exact (boxes_observeNesting counts.keeps _ _).adds_bind fun _ _ _ _ =>
                ih box.header.payloadOffset box.header.endOffset childDepth _ _ (by omega)
            · exact adds_handleBox counts context box.header depth _
      · exact Keeps.adds (leaves_pure _)

theorem adds_walkRange (start stop depth : Nat) (context : WalkContext) (path : List BoxType) :
    Adds boxes (3 * (stop - start)) (walkRange reader start stop depth context path) := by
  rw [walkRange]
  exact (boxes_observeNesting counts.keeps _ _).adds_bind fun _ _ _ _ =>
    adds_walkBoxes counts _ start stop depth context path (Nat.le_refl _)

end Walked

end Bmff

end Guiying.Metadata
