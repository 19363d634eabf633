import Guiying.Foundation.Invariant
import Guiying.Metadata.Declared

/-!
# What the TIFF walk emits

A reader of some bytes hands them out as they are. So every field that the walk of a TIFF container
finds is faithful, where the container is one that the bytes declare.
-/

namespace Guiying.Metadata

open Guiying.Foundation Guiying.Foundation.ByteString Guiying.Foundation.MachineInt Parse Program

/-! ## Fields found so far -/

/-- Every field found so far is faithful. -/
def Extraction.Faithful (contents : List UInt8) (state : Extraction) : Prop :=
  ∀ field ∈ state.fields, field.FaithfulIn contents

/-- The program finds faithful fields only, and returns what is `good`. -/
abbrev Emits {α : Type} (contents : List UInt8) (program : Parse α) (good : α → Prop) : Prop :=
  Under (Extraction.Faithful contents) program good

/-- A reader of the bytes, which hands them out as they are. -/
structure MetadataReader.ReadsFrom (reader : MetadataReader) (contents : List UInt8) : Prop where
  sourceLen : reader.sourceLen = contents.length
  readVec : ∀ offset length context, Emits contents (reader.readVec offset length context)
    fun bytes => bytes = slice contents offset length ∧ offset + length ≤ contents.length
  readFieldBytes : ∀ offset length, Emits contents (reader.readFieldBytes offset length)
    fun bytes => bytes = slice contents offset length ∧ offset + length ≤ contents.length
  visitIfdEntries : ∀ offset count,
    Emits contents (reader.visitIfdEntries offset count) fun _ => True
  visitBmffBox : ∀ offset, Emits contents (reader.visitBmffBox offset) fun _ => True
  observeDepth : ∀ depth depthLimit offset context,
    Emits contents (reader.observeDepth depth depthLimit offset context) fun _ => True

section Steps

variable {contents : List UInt8}

theorem emits_checkedAdd {left right : Nat} {offset : Option Nat} {context : String} :
    Emits contents (checkedAdd left right offset context) fun sum => sum = left + right :=
  under_orFail.imp fun _ is => (checkedAdd_eq_some.mp is).2

theorem emits_checkedMul {left right : Nat} {offset : Option Nat} {context : String} :
    Emits contents (checkedMul left right offset context) fun product => product = left * right :=
  under_orFail.imp fun _ is => (checkedMul_eq_some.mp is).2

theorem emits_checkedSub {left right : Nat} {offset : Option Nat} {context : String} :
    Emits contents (checkedSub left right offset context)
      fun difference => right ≤ left ∧ difference = left - right :=
  under_orFail.imp fun _ is => checkedSub_eq_some.mp is

theorem emits_ensure {condition : Prop} [Decidable condition] {error : ParseError} :
    Emits contents (ensure (decide condition) error) fun _ => condition :=
  under_ensure.imp fun _ holds => of_decide_eq_true holds

theorem emits_usage : Emits contents usage fun _ => True := fun _ kept => ⟨trivial, kept⟩

theorem emits_setUsage {change : ExtractionUsage → ExtractionUsage} :
    Emits contents (setUsage change) fun _ => True := under_update fun _ kept => kept

theorem emits_pushIssue {error : ParseError} : Emits contents (pushIssue error) fun _ => True :=
  under_update fun _ kept => kept

theorem emits_pushField {field : MetadataField} (faithful : field.FaithfulIn contents) :
    Emits contents (pushField field) fun _ => True := by
  refine under_update fun state kept other inside => ?_
  rcases List.mem_append.mp inside with before | last
  · exact kept other before
  · rwa [List.mem_singleton.mp last]

theorem emits_isolate {result : Except ParseError Unit} :
    Emits contents (isolate result) fun _ => True := by
  cases result with
  | ok _ => exact under_pure trivial
  | error error =>
      dsimp only [isolate]
      split
      · exact emits_pushIssue
      · exact under_fail

theorem emits_isolated {program : Parse Unit} (inner : Emits contents program fun _ => True) :
    Emits contents (isolated program) fun _ => True :=
  (under_attempt inner).next fun _ => emits_isolate

end Steps

/-! ## Honest readers -/

section Honest

variable {reader : BudgetedReader} {contents : List UInt8}

theorem emits_countOperation (offset : Nat) :
    Emits contents (reader.countOperation offset) fun _ => True :=
  emits_usage.next fun _ => emits_checkedAdd.next fun _ => emits_setUsage.next fun _ =>
    under_ensure.next fun _ => under_pure trivial

theorem emits_countBytes (readOffset count : Nat) :
    Emits contents (reader.countBytes readOffset count) fun _ => True :=
  emits_usage.next fun _ => emits_checkedAdd.next fun _ => emits_setUsage.next fun _ =>
    under_ensure.imp fun _ _ => trivial

/-- The bytes completed so far are those of the range. -/
theorem emits_readLoop (honest : Honest reader contents) {offset length : Nat}
    (inside : offset + length ≤ contents.length) (context : String) :
    ∀ rounds done : Nat, done ≤ length → length - done ≤ rounds →
      Emits contents (reader.readLoop offset length context rounds (slice contents offset done))
        fun bytes => bytes = slice contents offset length
  | 0, done, within, enough => by
      have all : done = length := by omega
      subst all
      exact under_pure rfl
  | rounds + 1, done, within, enough => by
      have size : (slice contents offset done).length = done := length_slice (by omega)
      unfold BudgetedReader.readLoop
      rw [size]
      split
      · rename_i unfinished
        refine (emits_countOperation offset).next fun call => ?_
        refine emits_checkedAdd.bind fun readOffset at_ => ?_
        subst at_
        obtain ⟨count, positive, room, stop, answer⟩ :=
          honest.answers call (offset + done) (length - done) (by omega) (by omega)
        rw [answer]
        refine under_ensure.next fun _ => under_ensure.next fun _ =>
          (emits_countBytes _ _).next fun _ => ?_
        rw [slice_append]
        exact emits_readLoop honest inside context rounds (done + count) (by omega) (by omega)
      · have all : done = length := by omega
        subst all
        exact under_pure rfl

theorem emits_readVec (honest : Honest reader contents) (offset length : Nat) (context : String) :
    Emits contents (reader.readVec offset length context)
      fun bytes => bytes = slice contents offset length ∧ offset + length ≤ contents.length := by
  refine emits_checkedAdd.bind fun stop is => ?_
  subst is
  refine emits_ensure.bind fun _ inside => ?_
  rw [honest.sourceLen] at inside
  refine under_ensure.next fun _ => emits_usage.next fun _ => emits_checkedAdd.next fun _ =>
    under_ensure.next fun _ => ?_
  exact (emits_readLoop honest inside context length 0 (Nat.zero_le _) (by omega)).imp
    fun _ is => ⟨is, inside⟩

theorem readsFrom_of_honest (honest : Honest reader contents) :
    reader.operations.ReadsFrom contents where
  sourceLen := honest.sourceLen
  readVec := emits_readVec honest
  readFieldBytes offset length := by
    refine under_ensure.next fun _ => emits_usage.next fun _ => under_orFail.next fun _ =>
      under_ensure.next fun _ => emits_checkedAdd.next fun _ => under_ensure.next fun _ => ?_
    exact (emits_readVec honest offset length _).bind fun _ is =>
      emits_setUsage.next fun _ => under_pure is
  visitIfdEntries offset count :=
    under_ensure.next fun _ => emits_usage.next fun _ => under_orFail.next fun _ =>
      emits_setUsage.next fun _ => under_ensure.imp fun _ _ => trivial
  visitBmffBox offset :=
    emits_usage.next fun _ => under_orFail.next fun _ => emits_setUsage.next fun _ =>
      under_ensure.imp fun _ _ => trivial
  observeDepth depth depthLimit offset context := under_ensure.next fun _ => emits_setUsage

end Honest

/-! ## Entries and directories -/

namespace Tiff

section Walk

variable {reader : MetadataReader} {contents : List UInt8} {walk : TiffWalk}

/-- The bytes declare the container of the walk, so every range inside it. -/
structure Declares (contents : List UInt8) (walk : TiffWalk) : Prop where
  inside : walk.containerEnd ≤ contents.length
  range : ∀ ifdOffset tag start stop, walk.headerOffset ≤ start → stop ≤ walk.containerEnd →
    DeclaresRange contents (walk.container ifdOffset tag) start stop

theorem emits_ensureInContainer {offset length containerEnd : Nat} {context : String} :
    Emits contents (ensureInContainer offset length containerEnd context)
      fun _ => offset + length ≤ containerEnd :=
  emits_checkedAdd.bind fun _ is => emits_ensure.imp fun _ inside => is ▸ inside

theorem emits_valueOffset {entry : IfdEntry} (behind : walk.headerOffset ≤ entry.offset) :
    Emits contents (valueOffset walk entry) fun offset => walk.headerOffset ≤ offset := by
  unfold valueOffset
  split
  · exact emits_checkedAdd.imp fun offset is => by omega
  · exact emits_checkedAdd.imp fun offset is => by omega

theorem emits_extractTimestampField (reads : reader.ReadsFrom contents)
    (declares : Declares contents walk) (ifdOffset : Nat) {entry : IfdEntry}
    (behind : walk.headerOffset ≤ entry.offset) (kind : MetadataFieldKind) :
    Emits contents (extractTimestampField reader walk ifdOffset entry kind)
      (MetadataField.FaithfulIn contents) := by
  refine emits_ensure.bind fun _ ascii => ?_
  refine (emits_valueOffset behind).bind fun offset begun => ?_
  refine emits_ensureInContainer.bind fun _ inContainer => ?_
  refine (reads.readFieldBytes _ _).bind fun rawBytes read => ?_
  obtain ⟨rfl, inside⟩ := read
  exact under_pure {
    inside := inside
    length := (length_slice inside).symm
    nonempty := Nat.one_le_iff_ne_zero.mpr ascii.2
    bytes := rfl
    declared := declares.range ifdOffset entry.tag offset _ begun inContainer }

theorem emits_exifPointer (entry : IfdEntry) (exifIfd : Option Nat) :
    Emits contents (exifPointer entry exifIfd) fun _ => True := by
  unfold exifPointer
  split
  · exact emits_pushIssue.next fun _ => under_pure trivial
  · split
    · exact under_pure trivial
    · split
      · exact emits_pushIssue.next fun _ => under_pure trivial
      · exact under_pure trivial

theorem emits_processEntry (reads : reader.ReadsFrom contents) (declares : Declares contents walk)
    (role : IfdRole) (ifdOffset : Nat) {entry : IfdEntry}
    (behind : walk.headerOffset ≤ entry.offset) (exifIfd : Option Nat) :
    Emits contents (processEntry reader walk role ifdOffset entry exifIfd) fun _ => True := by
  unfold processEntry
  split
  · exact emits_exifPointer entry exifIfd
  · cases fieldKind role entry.tag with
    | none => exact under_pure trivial
    | some kind =>
        refine (emits_isolated ?_).next fun _ => under_pure trivial
        exact (emits_extractTimestampField reads declares ifdOffset behind kind).bind
          fun field faithful => emits_pushField faithful

theorem emits_processEntries (reads : reader.ReadsFrom contents) (declares : Declares contents walk)
    (role : IfdRole) (ifdOffset : Nat) {tableOffset : Nat}
    (behind : walk.headerOffset ≤ tableOffset) (table : List UInt8) :
    ∀ remaining index exifIfd, Emits contents
      (processEntries reader walk role ifdOffset tableOffset table remaining index exifIfd)
      fun _ => True
  | 0, _, _ => under_pure trivial
  | remaining + 1, index, exifIfd => by
      refine emits_checkedMul.next fun delta => emits_checkedAdd.bind fun entryOffset is => ?_
      have behindEntry : walk.headerOffset ≤ entryOffset := by omega
      exact (emits_processEntry reads declares role ifdOffset behindEntry exifIfd).next fun found =>
        emits_processEntries reads declares role ifdOffset behind table remaining (index + 1) found

/-- A table starts behind the offset of its directory. -/
theorem emits_readTable (reads : reader.ReadsFrom contents) (ifdOffset : Nat) :
    Emits contents (readTable reader walk ifdOffset) fun table => ifdOffset ≤ table.2.1 := by
  refine emits_ensureInContainer.next fun _ => (reads.readVec _ _ _).next fun _ =>
    (reads.visitIfdEntries _ _).next fun _ => emits_checkedMul.next fun _ =>
    emits_checkedAdd.next fun _ => emits_checkedAdd.bind fun tableOffset is => ?_
  refine emits_ensureInContainer.next fun _ => (reads.readVec _ _ _).next fun _ => under_pure ?_
  dsimp only
  omega

theorem emits_pushTask {task : IfdTask} : Emits contents (pushTask task) fun _ => True :=
  under_update fun _ kept => kept

theorem emits_pushFollowing (task : IfdTask) (ifdOffset nextRelative : Nat)
    (exifIfd : Option Nat) :
    Emits contents (pushFollowing task ifdOffset nextRelative exifIfd) fun _ => True := by
  refine under_orFail.next fun depth => Under.skip ?_ fun _ => ?_
  · unfold pushNext
    split
    · exact under_pure trivial
    · exact emits_pushTask
  · cases exifIfd with
    | none => exact under_pure trivial
    | some _ => exact emits_pushTask

theorem emits_insertVisited (ifdOffset : Nat) :
    Emits contents (insertVisited ifdOffset) fun _ => True :=
  Under.skip (fun _ kept => ⟨trivial, kept⟩) fun _ =>
    under_ensure.next fun _ => under_update fun _ kept => kept

theorem emits_processIfd (reads : reader.ReadsFrom contents) (declares : Declares contents walk)
    (task : IfdTask) : Emits contents (processIfd reader walk task) fun _ => True := by
  refine emits_checkedAdd.bind fun ifdOffset is => ?_
  refine under_ensure.next fun _ => (emits_insertVisited _).next fun _ =>
    (reads.observeDepth _ _ _ _).next fun _ => ?_
  refine (emits_readTable reads ifdOffset).bind fun table behind => ?_
  have behindTable : walk.headerOffset ≤ table.2.1 := by omega
  exact (emits_processEntries reads declares _ _ behindTable _ _ _ _).next fun exifIfd =>
    emits_pushFollowing _ _ _ _

theorem emits_popTask : Emits contents popTask fun _ => True := by
  intro state kept
  unfold popTask
  cases state.pending with
  | nil => exact ⟨trivial, kept⟩
  | cons task rest => exact ⟨trivial, kept⟩

theorem emits_walkPending (reads : reader.ReadsFrom contents) (declares : Declares contents walk) :
    ∀ rounds, Emits contents (walkPending reader walk rounds) fun _ => True
  | 0 => under_pure trivial
  | rounds + 1 => by
      refine emits_popTask.next fun popped => ?_
      cases popped with
      | none => exact under_pure trivial
      | some task =>
          exact (emits_isolated (emits_processIfd reads declares task)).next fun _ =>
            emits_walkPending reads declares rounds

end Walk

section Container

variable {reader : MetadataReader} {contents : List UInt8} {headerOffset containerEnd : Nat}
  {origin : TiffOrigin}

theorem emits_walkContainer (reads : reader.ReadsFrom contents)
    (declares : ∀ byteOrder, Declares contents ⟨headerOffset, containerEnd, byteOrder, origin⟩) :
    Emits contents (walkContainer reader headerOffset containerEnd origin) fun _ => True := by
  refine under_ensure.next fun _ => emits_ensureInContainer.next fun _ =>
    (reads.readVec _ _ _).next fun header => under_orFail.next fun byteOrder =>
    under_ensure.next fun _ => ?_
  dsimp only
  split
  · exact under_pure trivial
  · exact emits_pushTask.next fun _ => emits_walkPending reads (declares byteOrder) _

/-- Every field found in a container that the bytes declare is faithful. -/
theorem emits_parseInRange (reads : reader.ReadsFrom contents)
    (declares : ∀ byteOrder, Declares contents ⟨headerOffset, containerEnd, byteOrder, origin⟩) :
    Emits contents (parseInRange reader headerOffset containerEnd origin) fun _ => True := by
  intro state kept
  have result := emits_walkContainer reads declares { state with visited := [], pending := [] } kept
  unfold parseInRange withLocals
  revert result
  rcases walkContainer reader headerOffset containerEnd origin
    { state with visited := [], pending := [] } with ⟨_ | _, after⟩
  · exact fun kept => kept
  · exact fun kept => kept

/-- The file itself is a container. -/
theorem declares_file (contents : List UInt8) (byteOrder : TiffByteOrder) :
    Declares contents ⟨0, contents.length, byteOrder, .direct⟩ where
  inside := Nat.le_refl _
  range _ _ _ _ _ inside := .file inside

theorem emits_parseDirect (reads : reader.ReadsFrom contents) :
    Emits contents (parseDirect reader) fun _ => True := by
  unfold parseDirect
  rw [reads.sourceLen]
  exact emits_isolated (emits_parseInRange reads (declares_file contents))

end Container

end Tiff

end Guiying.Metadata
