import Guiying.Foundation.TwoRuns
import Guiying.Metadata.Bmff

/-!
# Walks that agree

Two readers of one file whose operations agree, unless a budget of the second one is spent, make
the walks over directories and boxes agree in the same way: what a walk does depends on nothing of
the reader but its answers.
-/

namespace Guiying.Metadata

open Guiying.Foundation Guiying.Foundation.ByteString Guiying.Foundation.MachineInt Parse Program

/-! ## Agreement -/

/-- The same findings and locals, and usage that is related. A spent budget cuts a run short. -/
def sameFindings (related : ExtractionUsage → ExtractionUsage → Prop) :
    Lockstep Extraction ParseError Extraction ParseError where
  state left right := related left.usage right.usage ∧ left.fields = right.fields ∧
    left.issues = right.issues ∧ left.visited = right.visited ∧ left.pending = right.pending
  error := Eq
  cut error := error.code = .limitExceeded

/-- Both programs end in the same way, unless the second one spends a budget. -/
abbrev Agrees {α : Type} (related : ExtractionUsage → ExtractionUsage → Prop)
    (left right : Parse α) : Prop :=
  (sameFindings related).Follows Eq left right

/-- The operations of two readers of one file agree. The first one has the wider limits. -/
structure MetadataReader.Agree (related : ExtractionUsage → ExtractionUsage → Prop)
    (left right : MetadataReader) : Prop where
  sourceLen : left.sourceLen = right.sourceLen
  maxIfdDepth : right.limits.maxIfdDepth ≤ left.limits.maxIfdDepth
  maxBmffDepth : right.limits.maxBmffDepth ≤ left.limits.maxBmffDepth
  maxBmffBoxes : right.limits.maxBmffBoxes ≤ left.limits.maxBmffBoxes
  readVec : ∀ offset length context,
    Agrees related (left.readVec offset length context) (right.readVec offset length context)
  readFieldBytes : ∀ offset length,
    Agrees related (left.readFieldBytes offset length) (right.readFieldBytes offset length)
  visitIfdEntries : ∀ offset count,
    Agrees related (left.visitIfdEntries offset count) (right.visitIfdEntries offset count)
  visitBmffBox : ∀ offset, Agrees related (left.visitBmffBox offset) (right.visitBmffBox offset)
  observeDepth : ∀ depth {wide narrow : Nat} offset context, narrow ≤ wide →
    Agrees related (left.observeDepth depth wide offset context)
      (right.observeDepth depth narrow offset context)

section Steps

variable {α β : Type} {related : ExtractionUsage → ExtractionUsage → Prop} {left right : Parse α}

theorem Agrees.next {rest rest' : α → Parse β} (first : Agrees related left right)
    (later : ∀ value, Agrees related (rest value) (rest' value)) :
    Agrees related (left >>= rest) (right >>= rest') :=
  first.bind fun value _ same => by
    subst same
    exact later value

theorem agrees_pure (value : α) : Agrees related (pure value : Parse α) (pure value) :=
  Lockstep.follows_pure rfl

theorem agrees_fail (error : ParseError) : Agrees related (fail error : Parse α) (fail error) :=
  Lockstep.follows_fail rfl

theorem agrees_ensure (condition : Bool) (error : ParseError) :
    Agrees related (ensure condition error) (ensure condition error) := by
  cases condition with
  | true => exact agrees_pure _
  | false => exact agrees_fail error

/-- A check of a limit, which the wider one passes too. -/
theorem agrees_limit {wide narrow : Bool} {error error' : ParseError}
    (enough : narrow = true → wide = true) (cut : error'.code = .limitExceeded) :
    Agrees related (ensure wide error) (ensure narrow error') := by
  cases narrow with
  | true =>
      rw [enough rfl]
      exact agrees_pure _
  | false => exact Lockstep.follows_cut cut

theorem agrees_orFail (error : ParseError) (found : Option α) :
    Agrees related (orFail error found) (orFail error found) := by
  cases found with
  | some value => exact agrees_pure value
  | none => exact agrees_fail error

theorem agrees_checkedAdd (first second : Nat) (offset : Option Nat) (context : String) :
    Agrees related (checkedAdd first second offset context)
      (checkedAdd first second offset context) := agrees_orFail _ _

theorem agrees_checkedMul (first second : Nat) (offset : Option Nat) (context : String) :
    Agrees related (checkedMul first second offset context)
      (checkedMul first second offset context) := agrees_orFail _ _

theorem agrees_checkedSub (first second : Nat) (offset : Option Nat) (context : String) :
    Agrees related (checkedSub first second offset context)
      (checkedSub first second offset context) := agrees_orFail _ _

theorem agrees_pushIssue (error : ParseError) :
    Agrees related (pushIssue error) (pushIssue error) := by
  rintro s t ⟨usage, fields, issues, visited, pending⟩
  exact ⟨rfl, usage, fields, congrArg (· ++ [error]) issues, visited, pending⟩

theorem agrees_pushField (field : MetadataField) :
    Agrees related (pushField field) (pushField field) := by
  rintro s t ⟨usage, fields, issues, visited, pending⟩
  exact ⟨rfl, usage, congrArg (· ++ [field]) fields, issues, visited, pending⟩

theorem agrees_isolate (result : Except ParseError Unit) :
    Agrees related (isolate result) (isolate result) := by
  cases result with
  | ok _ => exact agrees_pure ()
  | error error =>
      dsimp only [isolate]
      split
      · exact agrees_pushIssue error
      · exact agrees_fail error

/-- A budget that is spent is no structural error, so nothing isolates it. -/
theorem isolate_limit {error : ParseError} (cut : error.code = .limitExceeded) :
    isolate (.error error) = fail error := by
  simp [isolate, ParseError.isStructural, cut]

/-- A part that is tried, where what follows passes on a budget that is spent. -/
theorem agrees_attempt {rest rest' : Except ParseError α → Parse β}
    (first : Agrees related left right)
    (later : ∀ result, Agrees related (rest result) (rest' result))
    (escapes : ∀ {error : ParseError}, error.code = .limitExceeded →
      rest' (.error error) = fail error) :
    Agrees related (attempt left >>= rest) (attempt right >>= rest') := by
  intro s t states
  have ends := first s t states
  rw [Program.bind_run, Program.bind_run]
  unfold attempt
  dsimp only
  generalize left s = ended at ends ⊢
  generalize right t = ended' at ends ⊢
  obtain ⟨outcome, s'⟩ := ended
  obtain ⟨outcome', t'⟩ := ended'
  cases outcome' with
  | ok value' =>
      cases outcome with
      | ok value =>
          obtain ⟨rfl, states⟩ := ends
          exact later _ s' t' states
      | error error => exact ends.elim
  | error error' =>
      cases outcome with
      | ok value =>
          rw [escapes ends]
          exact Lockstep.ends_cut ends
      | error error =>
          rcases ends with cut | ⟨rfl, states⟩
          · rw [escapes cut]
            exact Lockstep.ends_cut cut
          · exact later _ s' t' states

theorem agrees_isolated {left right : Parse Unit} (inner : Agrees related left right) :
    Agrees related (isolated left) (isolated right) :=
  agrees_attempt inner agrees_isolate isolate_limit

end Steps

/-! ## Directories -/

namespace Tiff

variable {related : ExtractionUsage → ExtractionUsage → Prop} {left right : MetadataReader}
  {walk : TiffWalk}

theorem agrees_ensureInContainer (offset length containerEnd : Nat) (context : String) :
    Agrees related (ensureInContainer offset length containerEnd context)
      (ensureInContainer offset length containerEnd context) :=
  (agrees_checkedAdd _ _ _ _).next fun _ => agrees_ensure _ _

theorem agrees_valueOffset (entry : IfdEntry) :
    Agrees related (valueOffset walk entry) (valueOffset walk entry) := by
  unfold valueOffset
  split
  · exact agrees_checkedAdd _ _ _ _
  · exact agrees_checkedAdd _ _ _ _

theorem agrees_extractTimestampField (agree : left.Agree related right) (ifdOffset : Nat)
    (entry : IfdEntry) (kind : MetadataFieldKind) :
    Agrees related (extractTimestampField left walk ifdOffset entry kind)
      (extractTimestampField right walk ifdOffset entry kind) :=
  (agrees_ensure _ _).next fun _ => (agrees_valueOffset entry).next fun _ =>
    (agrees_ensureInContainer _ _ _ _).next fun _ => (agree.readFieldBytes _ _).next fun _ =>
    agrees_pure _

theorem agrees_exifPointer (entry : IfdEntry) (exifIfd : Option Nat) :
    Agrees related (exifPointer entry exifIfd) (exifPointer entry exifIfd) := by
  unfold exifPointer
  split
  · exact (agrees_pushIssue _).next fun _ => agrees_pure _
  · split
    · exact agrees_pure _
    · split
      · exact (agrees_pushIssue _).next fun _ => agrees_pure _
      · exact agrees_pure _

theorem agrees_processEntry (agree : left.Agree related right) (role : IfdRole) (ifdOffset : Nat)
    (entry : IfdEntry) (exifIfd : Option Nat) :
    Agrees related (processEntry left walk role ifdOffset entry exifIfd)
      (processEntry right walk role ifdOffset entry exifIfd) := by
  unfold processEntry
  split
  · exact agrees_exifPointer entry exifIfd
  · cases fieldKind role entry.tag with
    | none => exact agrees_pure _
    | some kind =>
        refine (agrees_isolated ?_).next fun _ => agrees_pure _
        exact (agrees_extractTimestampField agree ifdOffset entry kind).next agrees_pushField

theorem agrees_processEntries (agree : left.Agree related right) (role : IfdRole)
    (ifdOffset tableOffset : Nat) (table : List UInt8) :
    ∀ remaining index exifIfd, Agrees related
      (processEntries left walk role ifdOffset tableOffset table remaining index exifIfd)
      (processEntries right walk role ifdOffset tableOffset table remaining index exifIfd)
  | 0, _, _ => agrees_pure _
  | remaining + 1, index, exifIfd =>
      (agrees_checkedMul _ _ _ _).next fun _ => (agrees_checkedAdd _ _ _ _).next fun _ =>
        (agrees_processEntry agree role ifdOffset _ exifIfd).next fun found =>
        agrees_processEntries agree role ifdOffset tableOffset table remaining (index + 1) found

theorem agrees_readTable (agree : left.Agree related right) (ifdOffset : Nat) :
    Agrees related (readTable left walk ifdOffset) (readTable right walk ifdOffset) :=
  (agrees_ensureInContainer _ _ _ _).next fun _ => (agree.readVec _ _ _).next fun _ =>
    (agree.visitIfdEntries _ _).next fun _ => (agrees_checkedMul _ _ _ _).next fun _ =>
    (agrees_checkedAdd _ _ _ _).next fun _ => (agrees_checkedAdd _ _ _ _).next fun _ =>
    (agrees_ensureInContainer _ _ _ _).next fun _ => (agree.readVec _ _ _).next fun _ =>
    agrees_pure _

theorem agrees_insertVisited (ifdOffset : Nat) :
    Agrees related (insertVisited ifdOffset) (insertVisited ifdOffset) := by
  rintro s t ⟨usage, fields, issues, visited, pending⟩
  unfold insertVisited
  rw [Program.bind_run, Program.bind_run]
  dsimp only [current]
  rw [visited]
  by_cases new : ifdOffset ∉ t.visited
  · rw [decide_eq_true new]
    exact ⟨rfl, usage, fields, issues, congrArg (ifdOffset :: ·) visited, pending⟩
  · rw [decide_eq_false new]
    exact .inr ⟨rfl, usage, fields, issues, visited, pending⟩

theorem agrees_pushTask (task : IfdTask) : Agrees related (pushTask task) (pushTask task) := by
  rintro s t ⟨usage, fields, issues, visited, pending⟩
  exact ⟨rfl, usage, fields, issues, visited, congrArg (task :: ·) pending⟩

theorem agrees_pushFollowing (task : IfdTask) (ifdOffset nextRelative : Nat)
    (exifIfd : Option Nat) :
    Agrees related (pushFollowing task ifdOffset nextRelative exifIfd)
      (pushFollowing task ifdOffset nextRelative exifIfd) := by
  refine (agrees_orFail _ _).next fun depth => Agrees.next ?_ fun _ => ?_
  · unfold pushNext
    split
    · exact agrees_pure _
    · exact agrees_pushTask _
  · cases exifIfd with
    | none => exact agrees_pure _
    | some _ => exact agrees_pushTask _

theorem agrees_processIfd (agree : left.Agree related right) (task : IfdTask) :
    Agrees related (processIfd left walk task) (processIfd right walk task) :=
  (agrees_checkedAdd _ _ _ _).next fun ifdOffset => (agrees_ensure _ _).next fun _ =>
    (agrees_insertVisited _).next fun _ =>
    (agree.observeDepth _ _ _ agree.maxIfdDepth).next fun _ =>
    (agrees_readTable agree ifdOffset).next fun _ =>
    (agrees_processEntries agree _ _ _ _ _ _ _).next fun _ => agrees_pushFollowing _ _ _ _

theorem agrees_popTask : Agrees related popTask popTask := by
  rintro s t ⟨usage, fields, issues, visited, pending⟩
  unfold popTask
  rw [pending]
  cases tasks : t.pending with
  | nil => exact ⟨rfl, usage, fields, issues, visited, pending⟩
  | cons task rest => exact ⟨rfl, usage, fields, issues, visited, rfl⟩

theorem agrees_walkPending (agree : left.Agree related right) :
    ∀ rounds, Agrees related (walkPending left walk rounds) (walkPending right walk rounds)
  | 0 => agrees_pure _
  | rounds + 1 => by
      refine agrees_popTask.next fun popped => ?_
      cases popped with
      | none => exact agrees_pure _
      | some task =>
          exact (agrees_isolated (agrees_processIfd agree task)).next fun _ =>
            agrees_walkPending agree rounds

theorem agrees_walkContainer (agree : left.Agree related right) (headerOffset containerEnd : Nat)
    (origin : TiffOrigin) :
    Agrees related (walkContainer left headerOffset containerEnd origin)
      (walkContainer right headerOffset containerEnd origin) := by
  unfold walkContainer
  rw [agree.sourceLen]
  refine (agrees_ensure _ _).next fun _ => (agrees_ensureInContainer _ _ _ _).next fun _ =>
    (agree.readVec _ _ _).next fun header => (agrees_orFail _ _).next fun byteOrder =>
    (agrees_ensure _ _).next fun _ => ?_
  dsimp only
  split
  · exact agrees_pure _
  · exact (agrees_pushTask _).next fun _ => agrees_walkPending agree _

/-- The locals of a walk are its own. -/
theorem agrees_withLocals {first second : Parse Unit} (inner : Agrees related first second) :
    Agrees related (withLocals first) (withLocals second) := by
  rintro s t ⟨usage, fields, issues, visited, pending⟩
  have ends := inner { s with visited := [], pending := [] } { t with visited := [], pending := [] }
    ⟨usage, fields, issues, rfl, rfl⟩
  unfold withLocals
  generalize first { s with visited := [], pending := [] } = ended at ends ⊢
  generalize second { t with visited := [], pending := [] } = ended' at ends ⊢
  obtain ⟨outcome, s'⟩ := ended
  obtain ⟨outcome', t'⟩ := ended'
  cases outcome' with
  | ok value' =>
      cases outcome with
      | ok value => exact ⟨ends.1, ends.2.1, ends.2.2.1, ends.2.2.2.1, visited, pending⟩
      | error error => exact ends.elim
  | error error' =>
      cases outcome with
      | ok value => exact ends
      | error error =>
          exact ends.imp_right fun same =>
            ⟨same.1, same.2.1, same.2.2.1, same.2.2.2.1, visited, pending⟩

theorem agrees_parseInRange (agree : left.Agree related right) (headerOffset containerEnd : Nat)
    (origin : TiffOrigin) :
    Agrees related (parseInRange left headerOffset containerEnd origin)
      (parseInRange right headerOffset containerEnd origin) :=
  agrees_withLocals (agrees_walkContainer agree headerOffset containerEnd origin)

theorem agrees_parseDirect (agree : left.Agree related right) :
    Agrees related (parseDirect left) (parseDirect right) := by
  unfold parseDirect
  rw [agree.sourceLen]
  exact agrees_isolated (agrees_parseInRange agree _ _ _)

end Tiff

/-! ## Item locations -/

section Locations

variable {related : ExtractionUsage → ExtractionUsage → Prop} {left right : MetadataReader}
  {header : BoxHeader} {widths : IlocWidths}

theorem agrees_payloadLen : Agrees related header.payloadLen header.payloadLen :=
  agrees_checkedSub _ _ _ _

section Table

variable (agree : left.Agree related right)

include agree

theorem agrees_takeBytes (cursor endOffset length : Nat) (context : String) :
    Agrees related (takeBytes left cursor endOffset length context)
      (takeBytes right cursor endOffset length context) :=
  (agrees_checkedAdd _ _ _ _).next fun _ => (agrees_ensure _ _).next fun _ =>
    (agree.readVec _ _ _).next fun _ => agrees_pure _

theorem agrees_takeU16 (cursor endOffset : Nat) (context : String) :
    Agrees related (takeU16 left cursor endOffset context) (takeU16 right cursor endOffset context) :=
  (agrees_takeBytes agree _ _ _ _).next fun _ => agrees_pure _

theorem agrees_takeU32 (cursor endOffset : Nat) (context : String) :
    Agrees related (takeU32 left cursor endOffset context) (takeU32 right cursor endOffset context) :=
  (agrees_takeBytes agree _ _ _ _).next fun _ => agrees_pure _

theorem agrees_takeUint (cursor endOffset size : Nat) (context : String) :
    Agrees related (takeUint left cursor endOffset size context)
      (takeUint right cursor endOffset size context) := by
  unfold takeUint
  split
  · exact agrees_pure _
  · exact (agrees_takeBytes agree _ _ _ _).next fun _ => (agrees_orFail _ _).next fun _ =>
      agrees_pure _

theorem agrees_takeItemHead (cursor : Nat) :
    Agrees related (takeItemHead left header widths cursor)
      (takeItemHead right header widths cursor) := by
  refine Agrees.next ?_ fun itemId => Agrees.next ?_ fun method =>
    (agrees_takeU16 agree _ _ _).next fun _ => (agrees_takeUint agree _ _ _ _).next fun _ =>
    (agrees_takeU16 agree _ _ _).next fun _ => agrees_pure _
  · unfold takeItemId
    split
    · exact agrees_takeU32 agree _ _ _
    · exact agrees_takeU16 agree _ _ _
  · unfold takeConstructionMethod
    split
    · exact (agrees_takeU16 agree _ _ _).next fun _ => agrees_pure _
    · exact agrees_pure _

theorem agrees_readExtent (itemOffset baseOffset cursor : Nat) :
    Agrees related (readExtent left header widths itemOffset baseOffset cursor)
      (readExtent right header widths itemOffset baseOffset cursor) := by
  refine Agrees.next ?_ fun _ => (agrees_takeUint agree _ _ _ _).next fun _ =>
    (agrees_takeUint agree _ _ _ _).next fun _ => (agrees_ensure _ _).next fun _ =>
    (agrees_checkedAdd _ _ _ _).next fun _ => agrees_pure _
  unfold skipExtentIndex
  split
  · exact (agrees_takeBytes agree _ _ _ _).next fun _ => agrees_pure _
  · exact agrees_pure _

theorem agrees_searchItem (wantedItem cursor : Nat) :
    Agrees related (searchItem left header widths wantedItem cursor)
      (searchItem right header widths wantedItem cursor) := by
  refine (agree.visitBmffBox _).next fun _ => (agrees_takeItemHead agree _).next fun item => ?_
  dsimp only
  split
  · exact Agrees.next ((agrees_ensure _ _).next fun _ => (agrees_ensure _ _).next fun _ =>
      (agrees_ensure _ _).next fun _ => agrees_readExtent agree _ _ _) fun _ => agrees_pure _
  · exact Agrees.next ((agrees_checkedAdd _ _ _ _).next fun _ => (agrees_checkedAdd _ _ _ _).next
      fun _ => (agrees_checkedMul _ _ _ _).next fun _ => (agrees_checkedAdd _ _ _ _).next fun _ =>
      (agrees_ensure _ _).next fun _ => agrees_pure _) fun _ => agrees_pure _

theorem agrees_searchItems (wantedItem : Nat) :
    ∀ count cursor, Agrees related (searchItems left header widths wantedItem count cursor)
      (searchItems right header widths wantedItem count cursor)
  | 0, _ => agrees_fail _
  | count + 1, cursor => by
      refine (agrees_searchItem agree wantedItem cursor).next fun found => ?_
      cases found with
      | inl location => exact agrees_pure _
      | inr next => exact agrees_searchItems wantedItem count next

theorem agrees_readItemCount (head : List UInt8) (version : Nat) :
    Agrees related (readItemCount left header head version)
      (readItemCount right header head version) := by
  unfold readItemCount
  split
  · exact (agrees_checkedAdd _ _ _ _).next fun _ => (agrees_checkedAdd _ _ _ _).next fun _ =>
      (agrees_ensure _ _).next fun _ => (agree.readVec _ _ _).next fun _ => agrees_pure _
  · exact (agrees_checkedAdd _ _ _ _).next fun _ => agrees_pure _

theorem agrees_findItemLocation (wantedItem : Nat) :
    Agrees related (findItemLocation left header wantedItem)
      (findItemLocation right header wantedItem) :=
  agrees_payloadLen.next fun _ => (agrees_ensure _ _).next fun _ => (agree.readVec _ _ _).next
    fun _ => Agrees.next ((agrees_ensure _ _).next fun _ => (agrees_ensure _ _).next fun _ =>
      agrees_pure _) fun _ =>
    (agrees_readItemCount agree _ _).next fun _ => agrees_searchItems agree _ _ _

end Table

end Locations

/-! ## Boxes -/

namespace Bmff

section Boxes

variable {related : ExtractionUsage → ExtractionUsage → Prop} {left right : MetadataReader}
  (agree : left.Agree related right)

include agree

theorem agrees_readBoxHeader (offset parentEnd : Nat) :
    Agrees related (readBoxHeader left offset parentEnd) (readBoxHeader right offset parentEnd) := by
  refine (agrees_ensure _ _).next fun _ => (agrees_checkedAdd _ _ _ _).next fun _ =>
    (agrees_ensure _ _).next fun _ => (agree.readVec _ _ _).next fun _ =>
    (agree.visitBmffBox _).next fun _ => Agrees.next ?_ fun size => ?_
  · unfold boxSize
    split
    · exact (agrees_checkedSub _ _ _ _).next fun _ => agrees_pure _
    · split
      · exact (agrees_checkedAdd _ _ _ _).next fun _ => (agrees_ensure _ _).next fun _ =>
          (agree.readVec _ _ _).next fun _ => agrees_pure _
      · exact agrees_pure _
  · dsimp only
    unfold boxWithin
    split
    · exact agrees_fail _
    · split
      · exact agrees_fail _
      · split
        · exact agrees_fail _
        · exact agrees_pure _

theorem agrees_forBoxes {α : Type} {visit visit' : BoxHeader → α → Parse α}
    (visits : ∀ header found, Agrees related (visit header found) (visit' header found)) :
    ∀ (size cursor stop : Nat) (found : α), stop - cursor ≤ size →
      Agrees related (forBoxes left visit cursor stop found)
        (forBoxes right visit' cursor stop found) := by
  intro size
  induction size with
  | zero =>
      intro cursor stop found none
      rw [forBoxes, forBoxes, dif_neg (by omega), dif_neg (by omega)]
      exact agrees_pure found
  | succ size ih =>
      intro cursor stop found bounded
      rw [forBoxes, forBoxes]
      split
      · refine (agrees_readBoxHeader agree cursor stop).next fun box => ?_
        have header := box.header_le
        have payload := box.payload_le
        simp only [boxHeaderBytes] at header
        exact (visits box.header found).next fun found => ih _ _ found (by omega)
      · exact agrees_pure found

theorem agrees_findInBoxes {α : Type} {visit visit' : BoxHeader → Parse (Option α)}
    (visits : ∀ header, Agrees related (visit header) (visit' header)) :
    ∀ size cursor stop : Nat, stop - cursor ≤ size →
      Agrees related (findInBoxes left visit cursor stop) (findInBoxes right visit' cursor stop) := by
  intro size
  induction size with
  | zero =>
      intro cursor stop none
      rw [findInBoxes, findInBoxes, dif_neg (by omega), dif_neg (by omega)]
      exact agrees_pure _
  | succ size ih =>
      intro cursor stop bounded
      rw [findInBoxes, findInBoxes]
      split
      · refine (agrees_readBoxHeader agree cursor stop).next fun box => ?_
        have header := box.header_le
        have payload := box.payload_le
        simp only [boxHeaderBytes] at header
        refine (visits box.header).next fun found => ?_
        cases found with
        | some found => exact agrees_pure _
        | none => exact ih _ _ (by omega)
      · exact agrees_pure _

theorem agrees_observeNesting (depth offset : Nat) :
    Agrees related (observeNesting left depth offset) (observeNesting right depth offset) :=
  agree.observeDepth _ _ _ agree.maxBmffDepth

omit agree in
theorem agrees_deeper (depth offset : Nat) (context : String) :
    Agrees related (deeper depth offset context) (deeper depth offset context) := agrees_orFail _ _

theorem agrees_metaChildrenStart (header : BoxHeader) :
    Agrees related (metaChildrenStart left header) (metaChildrenStart right header) := by
  refine agrees_payloadLen.next fun _ => ?_
  split
  · refine (agree.readVec _ _ _).next fun probe => ?_
    split
    · exact agrees_pure _
    · exact (agrees_ensure _ _).next fun _ => agrees_checkedAdd _ _ _ _
  · split
    · exact (agree.readVec _ _ _).next fun _ => (agrees_ensure _ _).next fun _ =>
        agrees_checkedAdd _ _ _ _
    · exact agrees_fail _

omit agree in
theorem agrees_mvhdLayout (header : BoxHeader) (version : UInt8) :
    Agrees related (mvhdLayout header version) (mvhdLayout header version) := by
  unfold mvhdLayout
  split
  · exact agrees_pure _
  · split
    · exact agrees_pure _
    · exact agrees_fail _

theorem agrees_parseMvhd (header : BoxHeader) (path : List BoxType) :
    Agrees related (parseMvhd left header path) (parseMvhd right header path) :=
  agrees_payloadLen.next fun _ => (agrees_ensure _ _).next fun _ => (agree.readVec _ _ _).next
    fun _ => (agrees_mvhdLayout _ _).next fun _ => (agrees_ensure _ _).next fun _ =>
    (agrees_checkedAdd _ _ _ _).next fun _ => (agree.readFieldBytes _ _).next fun _ =>
    agrees_pushField _

theorem agrees_parseKey (header : BoxHeader) (cursor : Nat) :
    Agrees related (parseKey left header cursor) (parseKey right header cursor) := by
  refine (agree.visitBmffBox _).next fun _ => (agrees_checkedAdd _ _ _ _).next fun _ =>
    (agrees_ensure _ _).next fun _ => (agree.readVec _ _ _).next fun _ =>
    (agrees_ensure _ _).next fun _ => (agrees_checkedAdd _ _ _ _).next fun _ =>
    (agrees_ensure _ _).next fun _ => (agrees_checkedSub _ _ _ _).next fun _ =>
    Agrees.next ?_ fun _ => agrees_pure _
  unfold isCreationDate
  split
  · exact (agrees_checkedAdd _ _ _ _).next fun _ => (agree.readVec _ _ _).next fun _ =>
      agrees_pure _
  · exact agrees_pure _

theorem agrees_parseKeyEntries (header : BoxHeader) :
    ∀ count cursor recognized, Agrees related
      (parseKeyEntries left header count cursor recognized)
      (parseKeyEntries right header count cursor recognized)
  | 0, _, _ => agrees_pure _
  | count + 1, cursor, _ =>
      (agrees_parseKey agree header cursor).next fun _ => agrees_parseKeyEntries header count _ _

theorem agrees_parseKeys (header : BoxHeader) :
    Agrees related (parseKeys left header) (parseKeys right header) := by
  refine agrees_payloadLen.next fun _ => (agrees_ensure _ _).next fun _ =>
    (agree.readVec _ _ _).next fun head => (agrees_ensure _ _).next fun _ =>
    Agrees.next (agrees_limit (fun within => ?_) rfl) fun _ =>
    (agrees_checkedAdd _ _ _ _).next fun _ => (agrees_parseKeyEntries agree header _ _ _).next
    fun _ => (agrees_ensure _ _).next fun _ => agrees_pure _
  exact decide_eq_true ((of_decide_eq_true within).trans agree.maxBmffBoxes)

theorem agrees_parseData (path : List BoxType) (data : BoxHeader) (found : Unit) :
    Agrees related (parseData left path data found) (parseData right path data found) := by
  unfold parseData
  split
  · exact agrees_payloadLen.next fun _ => (agrees_ensure _ _).next fun _ =>
      (agree.readVec _ _ _).next fun _ => (agrees_ensure _ _).next fun _ =>
      (agrees_checkedAdd _ _ _ _).next fun _ => (agrees_checkedSub _ _ _ _).next fun _ =>
      (agree.readFieldBytes _ _).next fun _ => (agrees_ensure _ _).next fun _ =>
      agrees_pushField _
  · exact agrees_pure _

theorem agrees_parseMetadataItem (item : BoxHeader) (parentDepth : Nat) (path : List BoxType) :
    Agrees related (parseMetadataItem left item parentDepth path)
      (parseMetadataItem right item parentDepth path) :=
  (agrees_deeper _ _ _).next fun _ => (agrees_observeNesting agree _ _).next fun _ =>
    agrees_forBoxes agree (agrees_parseData agree path) _ _ _ _ (Nat.le_refl _)

theorem agrees_parseIlst (header : BoxHeader) (parentDepth : Nat) (recognizedKeys : List Bool)
    (path : List BoxType) :
    Agrees related (parseIlst left header parentDepth recognizedKeys path)
      (parseIlst right header parentDepth recognizedKeys path) := by
  refine (agrees_deeper _ _ _).next fun _ => (agrees_observeNesting agree _ _).next fun _ =>
    agrees_forBoxes agree (fun item _ => ?_) _ _ _ _ (Nat.le_refl _)
  unfold parseItem
  split
  · exact agrees_parseMetadataItem agree _ _ _
  · exact agrees_pure _

theorem agrees_parseIlsts (depth : Nat) (recognizedKeys : List Bool) (path : List BoxType)
    (children : List BoxHeader) :
    Agrees related (parseIlsts left depth recognizedKeys path children)
      (parseIlsts right depth recognizedKeys path children) := by
  induction children with
  | nil => exact agrees_pure _
  | cons child children ih =>
      unfold parseIlsts
      split
      · exact (agrees_parseIlst agree child depth recognizedKeys _).next fun _ => ih
      · exact ih

theorem agrees_parseMeta (header : BoxHeader) (parentDepth : Nat) (path : List BoxType) :
    Agrees related (parseMeta left header parentDepth path)
      (parseMeta right header parentDepth path) := by
  refine (agrees_metaChildrenStart agree header).next fun start => (agrees_deeper _ _ _).next
    fun _ => (agrees_observeNesting agree _ _).next fun _ =>
    (agrees_forBoxes agree (fun _ _ => agrees_pure _) _ _ _ _ (Nat.le_refl _)).next fun children =>
    Agrees.next ?_ fun keys => agrees_parseIlsts agree _ _ _ children
  unfold recognizedKeysOf
  cases children.find? (·.boxType = .keys) with
  | none => exact agrees_pure _
  | some child => exact agrees_parseKeys agree child

theorem agrees_parseLegacyCopyrightDay (header : BoxHeader) (path : List BoxType) :
    Agrees related (parseLegacyCopyrightDay left header path)
      (parseLegacyCopyrightDay right header path) :=
  agrees_payloadLen.next fun _ => (agrees_ensure _ _).next fun _ => (agree.readVec _ _ _).next
    fun _ => (agrees_ensure _ _).next fun _ => (agrees_checkedAdd _ _ _ _).next fun _ =>
    (agrees_checkedAdd _ _ _ _).next fun _ => (agrees_ensure _ _).next fun _ =>
    (agree.readFieldBytes _ _).next fun _ => (agrees_ensure _ _).next fun _ => agrees_pushField _

/-! ## Still images -/

theorem agrees_exifItemId (entry : BoxHeader) :
    Agrees related (exifItemId left entry) (exifItemId right entry) := by
  have item : ∀ payloadLen length idBytes, Agrees related
      (readItemEntry left entry payloadLen length idBytes)
      (readItemEntry right entry payloadLen length idBytes) := fun _ _ _ =>
    (agrees_ensure _ _).next fun _ => (agree.readVec _ _ _).next fun _ => agrees_pure _
  refine agrees_payloadLen.next fun payloadLen => (agrees_ensure _ _).next fun _ =>
    (agree.readVec _ _ _).next fun head => Agrees.next ?_ fun found => ?_
  · unfold readTypedEntry
    split
    · exact agrees_pure _
    · split
      · exact (item _ _ _).next fun _ => agrees_pure _
      · split
        · exact (item _ _ _).next fun _ => agrees_pure _
        · exact agrees_fail _
  · cases found with
    | none => exact agrees_pure _
    | some item =>
        dsimp only
        split
        · exact (agrees_ensure _ _).next fun _ => agrees_pure _
        · exact agrees_pure _

theorem agrees_findExifItem (header : BoxHeader) :
    Agrees related (findExifItem left header) (findExifItem right header) := by
  refine agrees_payloadLen.next fun _ => (agrees_ensure _ _).next fun _ =>
    (agree.readVec _ _ _).next fun head => Agrees.next ?_ fun _ =>
    (agrees_checkedAdd _ _ _ _).next fun _ => (agrees_checkedAdd _ _ _ _).next fun _ =>
    (agrees_ensure _ _).next fun _ =>
    agrees_findInBoxes agree (fun entry => ?_) _ _ _ (Nat.le_refl _)
  · unfold itemCountBytes
    split
    · exact agrees_pure _
    · split
      · exact agrees_pure _
      · exact agrees_fail _
  · unfold visitItemInfo
    split
    · exact agrees_exifItemId agree entry
    · exact agrees_pure _

theorem agrees_extractExifItem (location : ItemLocation) :
    Agrees related (extractExifItem left location) (extractExifItem right location) := by
  unfold extractExifItem
  rw [agree.sourceLen]
  exact (agrees_checkedAdd _ _ _ _).next fun _ => (agrees_ensure _ _).next fun _ =>
    (agrees_ensure _ _).next fun _ => (agree.readVec _ _ _).next fun _ =>
    (agrees_checkedAdd _ _ _ _).next fun _ => (agrees_checkedAdd _ _ _ _).next fun _ =>
    (agrees_ensure _ _).next fun _ => Tiff.agrees_parseInRange agree _ _ _

theorem agrees_collectItems (child : BoxHeader) (items : MetaItems) :
    Agrees related (collectItems left child items) (collectItems right child items) := by
  unfold collectItems
  split
  · refine Agrees.next ?_ fun _ => agrees_pure _
    refine agrees_payloadLen.next fun _ => ?_
    split
    · exact agrees_pure _
    · exact (agree.readVec _ _ _).next fun _ => agrees_pure _
  · split
    · exact agrees_pure _
    · split
      · exact agrees_pure _
      · exact agrees_pure _

theorem agrees_parseRootMeta (header : BoxHeader) (parentDepth : Nat) :
    Agrees related (parseRootMeta left header parentDepth)
      (parseRootMeta right header parentDepth) := by
  refine (agrees_metaChildrenStart agree header).next fun start => (agrees_deeper _ _ _).next
    fun _ => (agrees_observeNesting agree _ _).next fun _ =>
    (agrees_forBoxes agree (agrees_collectItems agree) _ _ _ _ (Nat.le_refl _)).next fun items => ?_
  split
  · cases items.itemInfo with
    | none => exact agrees_pure _
    | some info =>
        refine (agrees_findExifItem agree info).next fun found => ?_
        cases found with
        | none => exact agrees_pure _
        | some itemId =>
            dsimp only [extractItem]
            cases items.itemLocation with
            | none => exact agrees_fail _
            | some table =>
                exact (agrees_findItemLocation agree itemId).next (agrees_extractExifItem agree)
  · exact agrees_pure _

/-! ## The walk -/

theorem agrees_handleBox (context : WalkContext) (header : BoxHeader) (depth : Nat)
    (path : List BoxType) :
    Agrees related (handleBox left context header depth path)
      (handleBox right context header depth path) := by
  cases context with
  | root =>
      dsimp only [handleBox]
      split
      · exact agrees_parseRootMeta agree header depth
      · exact agrees_pure _
  | movie =>
      dsimp only [handleBox]
      split
      · exact agrees_parseMvhd agree header path
      · split
        · exact agrees_parseMeta agree header depth path
        · exact agrees_pure _
  | userData =>
      dsimp only [handleBox]
      split
      · exact agrees_parseMeta agree header depth path
      · split
        · exact agrees_parseLegacyCopyrightDay agree header path
        · exact agrees_pure _

theorem agrees_walkBoxes :
    ∀ (size cursor stop depth : Nat) (context : WalkContext) (path : List BoxType),
      stop - cursor ≤ size → Agrees related (walkBoxes left cursor stop depth context path)
        (walkBoxes right cursor stop depth context path) := by
  intro size
  induction size with
  | zero =>
      intro cursor stop depth context path none
      rw [walkBoxes, walkBoxes, dif_neg (by omega), dif_neg (by omega)]
      exact agrees_pure _
  | succ size ih =>
      intro cursor stop depth context path bounded
      rw [walkBoxes, walkBoxes]
      split
      · refine agrees_attempt (agrees_readBoxHeader agree cursor stop) (fun result => ?_)
          isolate_limit
        cases result with
        | error error => exact agrees_isolate _
        | ok box =>
            have header := box.header_le
            have payload := box.payload_le
            have inside := box.inside
            simp only [boxHeaderBytes] at header
            dsimp only
            refine (agrees_isolated ?_).next fun _ => ih _ _ _ _ _ (by omega)
            cases childContext context box.header.boxType with
            | none => exact agrees_handleBox agree _ _ _ _
            | some child =>
                refine (agrees_deeper _ _ _).next fun childDepth => ?_
                rw [walkRange, walkRange]
                exact (agrees_observeNesting agree _ _).next fun _ => ih _ _ _ _ _ (by omega)
      · exact agrees_pure _

theorem agrees_parse : Agrees related (Bmff.parse left) (Bmff.parse right) := by
  unfold Bmff.parse
  rw [walkRange, walkRange, agree.sourceLen]
  exact (agrees_observeNesting agree _ _).next fun _ =>
    agrees_walkBoxes agree _ _ _ _ _ _ (Nat.le_refl _)

end Boxes

end Bmff

end Guiying.Metadata
