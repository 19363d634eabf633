import Mathlib.Data.Finset.Card
import Mathlib.Order.Interval.Finset.Nat
import Guiying.Metadata.Tiff

/-!
# The rounds of a walk

The loop of a TIFF walk comes to its end whatever the directories point to. A directory is entered
only where none was entered before, so the container has place for so many, and each leads to at
most two others. No limit of the reader has a part in this.
-/

namespace Guiying.Metadata

open Guiying.Foundation Guiying.Foundation.ByteString Guiying.Foundation.MachineInt Parse Program

/-- The locals of the walk under way. -/
def Extraction.locals (state : Extraction) : List Nat × List IfdTask :=
  (state.visited, state.pending)

/-- A view of the state that the operations of a reader and new findings leave as it is. -/
structure MetadataReader.Keeps (reader : MetadataReader) {γ : Type} (view : Extraction → γ) :
    Prop where
  readVec : ∀ offset length context, Program.Keeps view (reader.readVec offset length context)
  readFieldBytes : ∀ offset length, Program.Keeps view (reader.readFieldBytes offset length)
  visitIfdEntries : ∀ offset count, Program.Keeps view (reader.visitIfdEntries offset count)
  observeDepth : ∀ depth depthLimit offset context,
    Program.Keeps view (reader.observeDepth depth depthLimit offset context)
  pushIssue : ∀ error, Program.Keeps view (Parse.pushIssue error)
  pushField : ∀ field, Program.Keeps view (Parse.pushField field)

/-! ## What leaves a view as it is -/

section Leaves

variable {γ : Type} {view : Extraction → γ}

theorem leaves_checkedAdd (left right : Nat) (offset : Option Nat) (context : String) :
    Keeps view (checkedAdd left right offset context) := reads_orFail.keeps

theorem leaves_checkedMul (left right : Nat) (offset : Option Nat) (context : String) :
    Keeps view (checkedMul left right offset context) := reads_orFail.keeps

theorem leaves_checkedSub (left right : Nat) (offset : Option Nat) (context : String) :
    Keeps view (checkedSub left right offset context) := reads_orFail.keeps

theorem leaves_ensure (condition : Bool) (error : ParseError) :
    Keeps view (ensure condition error : Parse Unit) := reads_ensure.keeps

theorem leaves_pure {α : Type} (value : α) : Keeps view (pure value : Parse α) := reads_pure.keeps

theorem leaves_fail {α : Type} (error : ParseError) : Keeps view (fail error : Parse α) :=
  reads_fail.keeps

theorem leaves_usage : Keeps view usage := fun _ => rfl

theorem leaves_isolate (issues : ∀ error, Keeps view (pushIssue error))
    (result : Except ParseError Unit) : Keeps view (isolate result) := by
  cases result with
  | ok _ => exact leaves_pure ()
  | error error =>
      dsimp only [isolate]
      split
      · exact issues error
      · exact leaves_fail error

theorem leaves_isolated {program : Parse Unit} (issues : ∀ error, Keeps view (pushIssue error))
    (inner : Keeps view program) : Keeps view (isolated program) := by
  have attempted : Keeps view (attempt program : Parse (Except ParseError Unit)) := inner
  exact keeps_bind attempted (leaves_isolate issues)

end Leaves

/-! ## The budgeted reader -/

namespace BudgetedReader

variable (reader : BudgetedReader)

theorem leaves_setUsage (change : ExtractionUsage → ExtractionUsage) :
    Keeps Extraction.locals (setUsage change) := fun _ => rfl

theorem leaves_countOperation (offset : Nat) : Keeps Extraction.locals (reader.countOperation offset) :=
  keeps_bind leaves_usage fun _ => keeps_bind (leaves_checkedAdd _ _ _ _) fun _ =>
    keeps_bind (leaves_setUsage _) fun _ => keeps_bind (leaves_ensure _ _) fun _ => leaves_pure _

theorem leaves_countBytes (readOffset count : Nat) : Keeps Extraction.locals (reader.countBytes readOffset count) :=
  keeps_bind leaves_usage fun _ => keeps_bind (leaves_checkedAdd _ _ _ _) fun _ =>
    keeps_bind (leaves_setUsage _) fun _ => leaves_ensure _ _

theorem leaves_readLoop (offset length : Nat) (context : String) (rounds : Nat) :
    ∀ completed, Keeps Extraction.locals (reader.readLoop offset length context rounds completed) := by
  induction rounds with
  | zero => exact fun completed => leaves_pure completed
  | succ rounds ih =>
      intro completed
      unfold BudgetedReader.readLoop
      split
      · exact keeps_bind (leaves_countOperation reader _) fun _ =>
          keeps_bind (leaves_checkedAdd _ _ _ _) fun _ =>
          keeps_bind reads_orFail.keeps fun _ => keeps_bind (leaves_ensure _ _) fun _ =>
          keeps_bind (leaves_ensure _ _) fun _ => keeps_bind (leaves_countBytes reader _ _)
            fun _ => ih _
      · exact leaves_pure completed

theorem leaves_readVec (offset length : Nat) (context : String) :
    Keeps Extraction.locals (reader.readVec offset length context) :=
  keeps_bind (leaves_checkedAdd _ _ _ _) fun _ => keeps_bind (leaves_ensure _ _) fun _ =>
    keeps_bind (leaves_ensure _ _) fun _ => keeps_bind leaves_usage fun _ =>
    keeps_bind (leaves_checkedAdd _ _ _ _) fun _ => keeps_bind (leaves_ensure _ _) fun _ =>
    leaves_readLoop _ _ _ _ _ _

theorem leaves_readFieldBytes (offset length : Nat) :
    Keeps Extraction.locals (reader.readFieldBytes offset length) :=
  keeps_bind (leaves_ensure _ _) fun _ => keeps_bind leaves_usage fun _ =>
    keeps_bind reads_orFail.keeps fun _ => keeps_bind (leaves_ensure _ _) fun _ =>
    keeps_bind (leaves_checkedAdd _ _ _ _) fun _ => keeps_bind (leaves_ensure _ _) fun _ =>
    keeps_bind (leaves_readVec _ _ _ _) fun _ => keeps_bind (leaves_setUsage _) fun _ =>
    leaves_pure _

theorem leaves_visitIfdEntries (offset count : Nat) :
    Keeps Extraction.locals (reader.visitIfdEntries offset count) :=
  keeps_bind (leaves_ensure _ _) fun _ => keeps_bind leaves_usage fun _ =>
    keeps_bind reads_orFail.keeps fun _ => keeps_bind (leaves_setUsage _) fun _ =>
    leaves_ensure _ _

theorem leaves_observeDepth (depth depthLimit offset : Nat) (context : String) :
    Keeps Extraction.locals (BudgetedReader.observeDepth depth depthLimit offset context) :=
  keeps_bind (leaves_ensure _ _) fun _ => leaves_setUsage _

theorem keepsLocals : reader.operations.Keeps Extraction.locals where
  readVec := reader.leaves_readVec
  readFieldBytes := reader.leaves_readFieldBytes
  visitIfdEntries := reader.leaves_visitIfdEntries
  observeDepth := leaves_observeDepth
  pushIssue := fun _ _ => rfl
  pushField := fun _ _ => rfl

end BudgetedReader

namespace Tiff

section Entries

variable {γ : Type} {view : Extraction → γ} {reader : MetadataReader} {walk : TiffWalk}

theorem leaves_ensureInContainer (offset length containerEnd : Nat) (context : String) :
    Keeps view (ensureInContainer offset length containerEnd context) :=
  keeps_bind (leaves_checkedAdd _ _ _ _) fun _ => leaves_ensure _ _

theorem leaves_exifPointer (keeps : reader.Keeps view) (entry : IfdEntry) (exifIfd : Option Nat) :
    Keeps view (exifPointer entry exifIfd) := by
  unfold exifPointer
  split
  · exact keeps_bind (keeps.pushIssue _) fun _ => leaves_pure _
  split
  · exact leaves_pure _
  split
  · exact keeps_bind (keeps.pushIssue _) fun _ => leaves_pure _
  · exact leaves_pure _

variable (keeps : reader.Keeps view)

include keeps

theorem leaves_extractTimestampField (ifdOffset : Nat) (entry : IfdEntry)
    (kind : MetadataFieldKind) :
    Keeps view (extractTimestampField reader walk ifdOffset entry kind) := by
  have value : Keeps view (valueOffset walk entry) := by
    unfold valueOffset
    split <;> exact leaves_checkedAdd _ _ _ _
  exact keeps_bind (leaves_ensure _ _) fun _ => keeps_bind value fun _ =>
    keeps_bind (leaves_ensureInContainer _ _ _ _) fun _ =>
    keeps_bind (keeps.readFieldBytes _ _) fun _ => leaves_pure _

theorem leaves_processEntry (role : IfdRole) (ifdOffset : Nat) (entry : IfdEntry)
    (exifIfd : Option Nat) : Keeps view (processEntry reader walk role ifdOffset entry exifIfd) := by
  unfold processEntry
  split
  · exact leaves_exifPointer keeps _ _
  split
  · exact leaves_pure _
  · exact keeps_bind (leaves_isolated keeps.pushIssue (keeps_bind
      (leaves_extractTimestampField keeps _ _ _) fun _ => keeps.pushField _)) fun _ => leaves_pure _

theorem leaves_processEntries (role : IfdRole) (ifdOffset tableOffset : Nat) (table : List UInt8)
    (remaining : Nat) : ∀ index exifIfd,
      Keeps view (processEntries reader walk role ifdOffset tableOffset table remaining index
        exifIfd) := by
  induction remaining with
  | zero => exact fun _ _ => leaves_pure _
  | succ remaining ih =>
      intro index exifIfd
      exact keeps_bind (leaves_checkedMul _ _ _ _) fun _ =>
        keeps_bind (leaves_checkedAdd _ _ _ _) fun _ =>
        keeps_bind (leaves_processEntry keeps _ _ _ _) fun _ => ih _ _

theorem leaves_readTable (ifdOffset : Nat) : Keeps view (readTable reader walk ifdOffset) :=
  keeps_bind (leaves_ensureInContainer _ _ _ _) fun _ =>
    keeps_bind (keeps.readVec _ _ _) fun _ =>
    keeps_bind (keeps.visitIfdEntries _ _) fun _ => keeps_bind (leaves_checkedMul _ _ _ _) fun _ =>
    keeps_bind (leaves_checkedAdd _ _ _ _) fun _ => keeps_bind (leaves_checkedAdd _ _ _ _) fun _ =>
    keeps_bind (leaves_ensureInContainer _ _ _ _) fun _ =>
    keeps_bind (keeps.readVec _ _ _) fun _ => leaves_pure _

end Entries

/-! ## Where the Exif directory is -/

/-- An entry that points to the Exif directory. -/
def exifPointerOf (entry : IfdEntry) : Option Nat :=
  if entry.tag = tagExifIfd ∧ entry.fieldType = typeLong ∧ entry.valueCount = 1 ∧
      entry.value ≠ 0 then some entry.value
  else none

def tableEntry (walk : TiffWalk) (tableOffset : Nat) (table : List UInt8) (index : Nat) :
    IfdEntry :=
  decodeEntry walk (slice table (index * ifdEntryBytes) ifdEntryBytes)
    (tableOffset + index * ifdEntryBytes)

/-- The first pointer to the Exif directory among the entries of a table. -/
def exifIfdOf (walk : TiffWalk) (tableOffset : Nat) (table : List UInt8) (count : Nat) :
    Option Nat :=
  (List.range count).findSome? fun index => exifPointerOf (tableEntry walk tableOffset table index)

section Pointer

variable {reader : MetadataReader} {walk : TiffWalk} {role : IfdRole} {ifdOffset : Nat}

theorem processEntry_pointer {entry : IfdEntry} {exifIfd found : Option Nat}
    {state after : Extraction}
    (ran : processEntry reader walk role ifdOffset entry exifIfd state = (.ok found, after)) :
    found = if role = .primary then exifIfd.or (exifPointerOf entry) else exifIfd := by
  unfold processEntry at ran
  by_cases pointer : entry.tag = tagExifIfd ∧ role = .primary
  · rw [if_pos pointer] at ran
    rw [if_pos pointer.2]
    unfold exifPointer at ran
    unfold exifPointerOf
    by_cases malformed : entry.fieldType ≠ typeLong ∨ entry.valueCount ≠ 1
    · rw [if_pos malformed] at ran
      obtain ⟨_, _, _, ran⟩ := bind_eq_ok.mp ran
      have none : ¬ (entry.tag = tagExifIfd ∧ entry.fieldType = typeLong ∧
          entry.valueCount = 1 ∧ entry.value ≠ 0) := by tauto
      rw [if_neg none, Option.or_none]
      exact (pure_eq_ok.mp ran).1.symm
    · rw [if_neg malformed] at ran
      by_cases zero : entry.value = 0
      · rw [if_pos zero] at ran
        rw [if_neg (by tauto), Option.or_none]
        exact (pure_eq_ok.mp ran).1.symm
      · rw [if_neg zero] at ran
        rw [if_pos (by tauto)]
        cases exifIfd with
        | some first =>
            obtain ⟨_, _, _, ran⟩ := bind_eq_ok.mp ran
            exact (pure_eq_ok.mp ran).1.symm
        | none => exact (pure_eq_ok.mp ran).1.symm
  · rw [if_neg pointer] at ran
    have kept : found = exifIfd := by
      cases kind : fieldKind role entry.tag with
      | none =>
          rw [kind] at ran
          exact (pure_eq_ok.mp ran).1.symm
      | some kind' =>
          rw [kind] at ran
          obtain ⟨_, _, _, ran⟩ := bind_eq_ok.mp ran
          exact (pure_eq_ok.mp ran).1.symm
    split
    · rename_i primary
      have other : entry.tag ≠ tagExifIfd := fun same => pointer ⟨same, primary⟩
      rw [kept, exifPointerOf, if_neg fun all => other all.1, Option.or_none]
    · exact kept

/-- Only the primary directory points to the Exif directory, with its first pointer. -/
theorem processEntries_pointer {tableOffset : Nat} {table : List UInt8} {remaining : Nat} :
    ∀ {index : Nat} {exifIfd found : Option Nat} {state after : Extraction},
      processEntries reader walk role ifdOffset tableOffset table remaining index exifIfd state =
        (.ok found, after) →
      found = if role = .primary then exifIfd.or ((List.range' index remaining).findSome?
        fun index => exifPointerOf (tableEntry walk tableOffset table index)) else exifIfd := by
  induction remaining with
  | zero =>
      intro index exifIfd found state after ran
      rw [(pure_eq_ok.mp ran).1.symm]
      simp
  | succ remaining ih =>
      intro index exifIfd found state after ran
      unfold processEntries at ran
      obtain ⟨delta, _, multiplied, ran⟩ := bind_eq_ok.mp ran
      obtain ⟨_, rfl⟩ := checkedMul_eq_some.mp (orFail_eq_ok.mp multiplied).1
      obtain ⟨entryOffset, _, added, ran⟩ := bind_eq_ok.mp ran
      obtain ⟨_, rfl⟩ := checkedAdd_eq_some.mp (orFail_eq_ok.mp added).1
      obtain ⟨next, _, entry, more⟩ := bind_eq_ok.mp ran
      rw [ih more, processEntry_pointer entry]
      split
      · rw [Option.or_assoc, List.range'_succ, List.findSome?_cons, tableEntry]
        cases exifPointerOf _ <;> rfl
      · rfl

end Pointer

/-! ## One directory -/

def taskOffset (walk : TiffWalk) (task : IfdTask) : Nat :=
  walk.headerOffset + task.relativeOffset

/-- The tasks a directory leads to, the one to be walked first in front. -/
def followingTasks (depth nextRelative : Nat) (exifIfd : Option Nat) : List IfdTask :=
  exifIfd.toList.map (⟨·, .exif, depth⟩) ++
    if nextRelative = 0 then [] else [⟨nextRelative, .other, depth⟩]

/-- What came of a directory. -/
inductive IfdCase (reader : MetadataReader) (walk : TiffWalk) (task : IfdTask)
    (before : Extraction) : Except ParseError Unit × Extraction → Prop where
  | refused (error : ParseError) (after : Extraction)
      (reason : u64Bound ≤ taskOffset walk task ∨ task.relativeOffset < headerBytes ∨
        taskOffset walk task ∈ before.visited)
      (same : after.locals = before.locals) : IfdCase reader walk task before (.error error, after)
  | failed (error : ParseError) (after : Extraction)
      (new : taskOffset walk task ∉ before.visited)
      (entered : after.locals = (taskOffset walk task :: before.visited, before.pending)) :
      IfdCase reader walk task before (.error error, after)
  | walked (after : Extraction) (count tableOffset nextRelative : Nat) (table : List UInt8)
      (exifIfd : Option Nat) (new : taskOffset walk task ∉ before.visited)
      (inside : taskOffset walk task < walk.containerEnd)
      (read : ∃ start ended, readTable reader walk (taskOffset walk task) start =
        (.ok (count, tableOffset, table), ended))
      (pointer : exifIfd =
        if task.role = .primary then exifIfdOf walk tableOffset table count else none)
      (entered : after.locals = (taskOffset walk task :: before.visited,
        followingTasks (task.depth + 1) nextRelative exifIfd ++ before.pending)) :
      IfdCase reader walk task before (.ok (), after)

section Directory

variable {reader : MetadataReader} {walk : TiffWalk} (task : IfdTask) (before : Extraction)

theorem insertVisited_meets (ifdOffset : Nat) :
    Meets (fun state => state.locals = before.locals) (insertVisited ifdOffset)
      (fun _ state => ifdOffset ∉ before.visited ∧
        state.locals = (ifdOffset :: before.visited, before.pending))
      (fun _ state => ifdOffset ∈ before.visited ∧ state.locals = before.locals) := by
  unfold insertVisited
  refine meets_current_bind fun state same => ?_
  have visited : state.visited = before.visited := congrArg Prod.fst same
  have pending : state.pending = before.pending := congrArg Prod.snd same
  refine meets_ensure_bind (fun old => ?_) fun new => meets_update ?_
  · rintro _ rfl
    exact ⟨by simpa [visited] using old, same⟩
  · rintro _ rfl
    exact ⟨by simpa [visited] using new, by simp [Extraction.locals, visited, pending]⟩

theorem pushNext_meets (nextRelative depth : Nat) (visited : List Nat) (pending : List IfdTask) :
    Meets (fun state => state.locals = (visited, pending)) (pushNext nextRelative depth)
      (fun _ state => state.locals =
        (visited, (if nextRelative = 0 then [] else [⟨nextRelative, .other, depth⟩]) ++ pending))
      (fun _ _ => False) := by
  rintro state ⟨⟩
  unfold pushNext
  by_cases last : nextRelative = 0
  · rw [if_pos last, if_pos last]
    rfl
  · rw [if_neg last, if_neg last]
    rfl

theorem pushExif_meets (exifIfd : Option Nat) (depth : Nat) (visited : List Nat)
    (pending : List IfdTask) :
    Meets (fun state => state.locals = (visited, pending)) (pushExif exifIfd depth)
      (fun _ state => state.locals =
        (visited, exifIfd.toList.map (⟨·, .exif, depth⟩) ++ pending))
      (fun _ _ => False) := by
  rintro state ⟨⟩
  cases exifIfd <;> rfl

theorem pushFollowing_meets (ifdOffset nextRelative : Nat) (exifIfd : Option Nat)
    (visited : List Nat) (pending : List IfdTask) :
    Meets (fun state => state.locals = (visited, pending))
      (pushFollowing task ifdOffset nextRelative exifIfd)
      (fun _ state => state.locals =
        (visited, followingTasks (task.depth + 1) nextRelative exifIfd ++ pending))
      (fun _ state => state.locals = (visited, pending)) := by
  unfold pushFollowing
  refine meets_orFail_bind (fun _ _ same => same) fun depth deeper => ?_
  obtain ⟨_, rfl⟩ := checkedAdd_eq_some.mp deeper
  refine meets_bind ((pushNext_meets _ _ _ _).consequence (fun _ holds => holds)
    (fun _ _ holds => holds) fun _ _ => False.elim) fun _ => ?_
  refine (pushExif_meets _ _ _ _).consequence (fun _ holds => holds) (fun _ _ pushed => ?_)
    fun _ _ => False.elim
  rw [followingTasks, List.append_assoc]
  exact pushed

theorem readTable_inside {ifdOffset : Nat} {state after : Extraction}
    {result : Nat × Nat × List UInt8}
    (ran : readTable reader walk ifdOffset state = (.ok result, after)) :
    ifdOffset < walk.containerEnd := by
  unfold readTable ensureInContainer at ran
  obtain ⟨_, _, first, _⟩ := bind_eq_ok.mp ran
  obtain ⟨stop, _, added, inside⟩ := bind_eq_ok.mp first
  obtain ⟨_, rfl⟩ := checkedAdd_eq_some.mp (orFail_eq_ok.mp added).1
  have within : ifdOffset + 2 ≤ walk.containerEnd :=
    of_decide_eq_true (ensure_eq_ok.mp inside).1
  omega

/-- What comes of a directory that is entered. -/
theorem entered_case (keeps : reader.Keeps Extraction.locals) (new : taskOffset walk task ∉ before.visited) :
    Meets (fun state => state.locals = (taskOffset walk task :: before.visited, before.pending))
      (do
        reader.observeDepth task.depth reader.limits.maxIfdDepth (taskOffset walk task)
          "TIFF IFD depth limit"
        let (count, tableOffset, table) ← readTable reader walk (taskOffset walk task)
        let exifIfd ← processEntries reader walk task.role (taskOffset walk task) tableOffset table
          count 0 none
        let nextRelative := readU32 walk.byteOrder (table.drop (count * ifdEntryBytes))
        pushFollowing task (taskOffset walk task) nextRelative exifIfd)
      (fun _ after => IfdCase reader walk task before (.ok (), after))
      (fun error after => IfdCase reader walk task before (.error error, after)) := by
  have failed : ∀ (error : ParseError) (state : Extraction), state.locals =
      (taskOffset walk task :: before.visited, before.pending) →
      IfdCase reader walk task before (.error error, state) :=
    fun error state entered => .failed error state new entered
  refine meets_bind (((keeps.observeDepth _ _ _ _).meets _).consequence (fun _ holds => holds)
    (fun _ _ holds => holds) failed) fun _ => ?_
  refine meets_bind (((leaves_readTable keeps _).meets_run _).consequence (fun _ holds => holds)
    (fun _ _ holds => holds) failed) ?_
  rintro ⟨count, tableOffset, table⟩ state ⟨entered, start, read⟩
  refine meets_bind (((leaves_processEntries keeps _ _ _ _ _ _ _).meets_run _).consequence
    (fun _ holds => holds) (fun _ _ holds => holds) failed) ?_ state entered
  rintro exifIfd state ⟨entered, begun, entries⟩
  refine ((pushFollowing_meets task _ _ exifIfd _ _).consequence (fun _ holds => holds)
    (fun _ after pushed => ?_) failed) state entered
  refine .walked after count tableOffset _ table exifIfd new (readTable_inside read)
    ⟨start, _, read⟩ ?_ pushed
  rw [processEntries_pointer entries, exifIfdOf, List.range_eq_range', Option.none_or]

variable (walk) in
/-- A directory is refused, or it is entered for the first time. -/
theorem processIfd_case (keeps : reader.Keeps Extraction.locals) :
    IfdCase reader walk task before (processIfd reader walk task before) := by
  have meets : Meets (fun state => state.locals = before.locals) (processIfd reader walk task)
      (fun _ after => IfdCase reader walk task before (.ok (), after))
      (fun error after => IfdCase reader walk task before (.error error, after)) := by
    unfold processIfd
    refine meets_orFail_bind (fun wide state same => ?_) fun ifdOffset added => ?_
    · exact .refused _ state (.inl (checkedAdd_eq_none.mp wide)) same
    obtain ⟨_, rfl⟩ := checkedAdd_eq_some.mp added
    refine meets_ensure_bind (fun header state same => ?_) fun _ => ?_
    · exact .refused _ state (.inr (.inl (Nat.lt_of_not_le (of_decide_eq_false header)))) same
    refine meets_bind ((insertVisited_meets before _).consequence (fun _ holds => holds)
      (fun _ _ holds => holds) fun error state old => .refused error state
        (.inr (.inr old.1)) old.2) fun _ state entered => ?_
    obtain ⟨new, entered⟩ := entered
    exact entered_case task before keeps new state entered
  have result := meets before rfl
  generalize processIfd reader walk task before = ended at result ⊢
  obtain ⟨outcome, after⟩ := ended
  cases outcome with
  | ok _ => exact result
  | error error => exact result

end Directory

/-! ## Rounds of the loop -/

/-- What a round of the loop that goes on did to the locals, its task taken off the stack. -/
inductive RoundCase (reader : MetadataReader) (walk : TiffWalk) (task : IfdTask)
    (before after : Extraction) : Prop where
  | refused
      (reason : u64Bound ≤ taskOffset walk task ∨ task.relativeOffset < headerBytes ∨
        taskOffset walk task ∈ before.visited)
      (same : after.locals = before.locals)
  | failed (new : taskOffset walk task ∉ before.visited)
      (entered : after.locals = (taskOffset walk task :: before.visited, before.pending))
  | walked (count tableOffset nextRelative : Nat) (table : List UInt8) (exifIfd : Option Nat)
      (new : taskOffset walk task ∉ before.visited)
      (inside : taskOffset walk task < walk.containerEnd)
      (read : ∃ start ended, readTable reader walk (taskOffset walk task) start =
        (.ok (count, tableOffset, table), ended))
      (pointer : exifIfd =
        if task.role = .primary then exifIfdOf walk tableOffset table count else none)
      (entered : after.locals = (taskOffset walk task :: before.visited,
        followingTasks (task.depth + 1) nextRelative exifIfd ++ before.pending))

/-- The loop goes from one state to another and takes these tasks off the stack on the way. -/
inductive Rounds (reader : MetadataReader) (walk : TiffWalk) :
    Extraction → List IfdTask → Extraction → Prop where
  | still (state : Extraction) : Rounds reader walk state [] state
  | round {state middle after : Extraction} {task : IfdTask} {rest tasks : List IfdTask}
      (popped : state.pending = task :: rest)
      (ran : isolated (processIfd reader walk task) { state with pending := rest } =
        (.ok (), middle))
      (more : Rounds reader walk middle tasks after) :
      Rounds reader walk state (task :: tasks) after

section Rounds

variable {reader : MetadataReader} {walk : TiffWalk} {task : IfdTask}

theorem round_case (keeps : reader.Keeps Extraction.locals) {before after : Extraction}
    (ran : isolated (processIfd reader walk task) before = (.ok (), after)) :
    RoundCase reader walk task before after := by
  have result := processIfd_case walk task before keeps
  unfold isolated at ran
  obtain ⟨outcome, middle, attempted, ran⟩ := bind_eq_ok.mp ran
  unfold attempt at attempted
  generalize processIfd reader walk task before = ended at result attempted
  cases attempted
  have issued : ∀ {error : ParseError} {state : Extraction},
      isolate (.error error) state = (.ok (), after) → after.locals = state.locals := by
    intro error state ran
    dsimp only [isolate] at ran
    split at ran
    · obtain rfl := update_eq_ok.mp ran
      rfl
    · exact (fail_eq_ok.mp ran).elim
  cases result with
  | refused error state reason same => exact .refused reason ((issued ran).trans same)
  | failed error state new entered => exact .failed new ((issued ran).trans entered)
  | walked state count tableOffset nextRelative table exifIfd new inside read pointer entered =>
      obtain ⟨_, rfl⟩ := pure_eq_ok.mp ran
      exact .walked count tableOffset nextRelative table exifIfd new inside read pointer entered

/-- The places of the container where no directory was entered. -/
def unvisited (walk : TiffWalk) (visited : List Nat) : Finset Nat :=
  Finset.Ico walk.headerOffset walk.containerEnd \ visited.toFinset

/-- How many rounds the loop can still make. -/
def weight (walk : TiffWalk) (locals : List Nat × List IfdTask) : Nat :=
  2 * (unvisited walk locals.1).card + locals.2.length

theorem length_followingTasks_le (depth nextRelative : Nat) (exifIfd : Option Nat) :
    (followingTasks depth nextRelative exifIfd).length ≤ 2 := by
  unfold followingTasks
  cases exifIfd <;> split <;> simp

theorem unvisited_cons (walk : TiffWalk) (offset : Nat) (visited : List Nat) :
    unvisited walk (offset :: visited) = (unvisited walk visited).erase offset := by
  rw [unvisited, List.toFinset_cons, Finset.sdiff_insert, unvisited]

theorem RoundCase.weight_lt {before after : Extraction}
    (round : RoundCase reader walk task before after) :
    weight walk after.locals + 1 ≤ weight walk (before.visited, task :: before.pending) := by
  unfold weight
  cases round with
  | refused reason same =>
      rw [same]
      simp only [Extraction.locals, List.length_cons]
      omega
  | failed new entered =>
      rw [entered]
      have fewer := Finset.card_erase_le (s := unvisited walk before.visited)
        (a := taskOffset walk task)
      simp only [unvisited_cons, List.length_cons]
      omega
  | walked count tableOffset nextRelative table exifIfd new inside read pointer entered =>
      rw [entered]
      have place : taskOffset walk task ∈ unvisited walk before.visited := by
        simp only [unvisited, Finset.mem_sdiff, Finset.mem_Ico, List.mem_toFinset]
        exact ⟨⟨Nat.le_add_right _ _, inside⟩, new⟩
      have one := Finset.card_erase_add_one place
      have two := length_followingTasks_le (task.depth + 1) nextRelative exifIfd
      simp only [unvisited_cons, List.length_append, List.length_cons]
      omega

theorem RoundCase.nodup {before after : Extraction}
    (round : RoundCase reader walk task before after) (nodup : before.visited.Nodup) :
    after.visited.Nodup := by
  cases round with
  | refused reason same =>
      rw [show after.visited = _ from congrArg Prod.fst same]
      exact nodup
  | failed new entered =>
      rw [show after.visited = _ from congrArg Prod.fst entered]
      exact List.nodup_cons.mpr ⟨new, nodup⟩
  | walked count tableOffset nextRelative table exifIfd new inside read pointer entered =>
      rw [show after.visited = _ from congrArg Prod.fst entered]
      exact List.nodup_cons.mpr ⟨new, nodup⟩

/-! ## Runs of the loop -/

/-- Every run makes fewer rounds than its weight. -/
theorem Rounds.length_le (keeps : reader.Keeps Extraction.locals) {state after : Extraction}
    {tasks : List IfdTask} (rounds : Rounds reader walk state tasks after) :
    tasks.length + weight walk after.locals ≤ weight walk state.locals := by
  induction rounds with
  | still state => exact (Nat.zero_add _).le
  | @round state middle after task rest tasks popped ran more ih =>
      have lighter := (round_case keeps ran).weight_lt
      have start : state.locals = (state.visited, task :: rest) := by
        rw [Extraction.locals, popped]
      rw [start, List.length_cons]
      exact Nat.le_trans (by omega) lighter

/-- The directories entered are some of the tasks, each once. -/
theorem Rounds.entered (keeps : reader.Keeps Extraction.locals) {state after : Extraction}
    {tasks : List IfdTask} (rounds : Rounds reader walk state tasks after)
    (nodup : state.visited.Nodup) :
    after.visited.Nodup ∧ ∃ entered : List IfdTask, entered.Sublist tasks ∧
      after.visited = (entered.map (taskOffset walk)).reverse ++ state.visited := by
  induction rounds with
  | still state => exact ⟨nodup, [], List.nil_sublist _, rfl⟩
  | @round state middle after task rest tasks popped ran more ih =>
      have round := round_case keeps ran
      obtain ⟨distinct, entered, sublist, visited⟩ := ih (round.nodup nodup)
      refine ⟨distinct, ?_⟩
      have grown : middle.visited = state.visited ∨
          middle.visited = taskOffset walk task :: state.visited := by
        cases round with
        | refused reason same => exact .inl (congrArg Prod.fst same)
        | failed new entered => exact .inr (congrArg Prod.fst entered)
        | walked count tableOffset nextRelative table exifIfd new inside read pointer entered =>
            exact .inr (congrArg Prod.fst entered)
      rcases grown with same | more
      · exact ⟨entered, sublist.cons task, same ▸ visited⟩
      · exact ⟨task :: entered, sublist.cons_cons task, by simp [visited, more]⟩

/-- The loop ends: it took every task off the stack, or a round of it fails. -/
inductive LoopEnds (reader : MetadataReader) (walk : TiffWalk) (state : Extraction) :
    Except ParseError Unit × Extraction → Prop where
  | finished {tasks : List IfdTask} {after : Extraction}
      (rounds : Rounds reader walk state tasks after) (empty : after.pending = []) :
      LoopEnds reader walk state (.ok (), after)
  | failed {tasks rest : List IfdTask} {middle after : Extraction} {task : IfdTask}
      {error : ParseError} (rounds : Rounds reader walk state tasks middle)
      (popped : middle.pending = task :: rest)
      (ran : isolated (processIfd reader walk task) { middle with pending := rest } =
        (.error error, after)) : LoopEnds reader walk state (.error error, after)

/-- With rounds for its weight, the loop ends by itself. -/
theorem walkPending_ends (keeps : reader.Keeps Extraction.locals) :
    ∀ (rounds : Nat) (state : Extraction), weight walk state.locals ≤ rounds →
      LoopEnds reader walk state (walkPending reader walk rounds state) := by
  intro rounds
  induction rounds with
  | zero =>
      intro state none
      have empty : state.pending = [] := by
        have length : state.pending.length = 0 := by
          unfold weight at none
          change 2 * _ + state.pending.length ≤ 0 at none
          omega
        exact List.length_eq_zero_iff.mp length
      exact .finished (.still state) empty
  | succ rounds ih =>
      intro state enough
      unfold walkPending
      rw [bind_run, popTask]
      cases pending : state.pending with
      | nil => exact .finished (.still state) pending
      | cons task rest =>
          dsimp only
          rw [bind_run]
          cases ran : isolated (processIfd reader walk task) { state with pending := rest } with
          | mk outcome middle =>
              cases outcome with
              | error error => exact .failed (.still state) pending ran
              | ok _ =>
                  have lighter := (round_case keeps ran).weight_lt
                  have start : state.locals = (state.visited, task :: rest) := by
                    rw [Extraction.locals, pending]
                  rw [start] at enough
                  dsimp only at lighter ⊢
                  have ends := ih middle (by omega)
                  generalize walkPending reader walk rounds middle = ended at ends ⊢
                  cases ends with
                  | finished more empty => exact .finished (.round pending ran more) empty
                  | failed more popped last => exact .failed (.round pending ran more) popped last

theorem weight_start {state : Extraction} {firstIfd : Nat}
    (start : state.locals = ([], [⟨firstIfd, .primary, 1⟩])) :
    weight walk state.locals = walkRounds walk := by
  rw [start, weight, walkRounds, unvisited, List.toFinset_nil, Finset.sdiff_empty, Nat.card_Ico]
  rfl

variable (walk) in
/-- The rounds of a walk are enough for its first directory and all it leads to. -/
theorem walkRounds_enough (keeps : reader.Keeps Extraction.locals) {state : Extraction}
    {firstIfd : Nat} (start : state.locals = ([], [⟨firstIfd, .primary, 1⟩])) :
    LoopEnds reader walk state (walkPending reader walk (walkRounds walk) state) :=
  walkPending_ends keeps _ state (weight_start start).le

/-! ## The Exif directory -/

/-- No task but successors is left, so none of another role is to come. -/
def OnlySuccessors (pending : List IfdTask) : Prop := ∀ task ∈ pending, task.role = .other

theorem followingTasks_none (depth nextRelative : Nat) :
    OnlySuccessors (followingTasks depth nextRelative none) := by
  intro task listed
  unfold followingTasks at listed
  split at listed
  · exact nomatch listed
  · obtain rfl := List.mem_singleton.mp listed
    rfl

theorem RoundCase.successors {before after : Extraction}
    (round : RoundCase reader walk task before after) (other : task.role ≠ .primary)
    (only : OnlySuccessors before.pending) : OnlySuccessors after.pending := by
  cases round with
  | refused reason same =>
      rw [show after.pending = _ from congrArg Prod.snd same]
      exact only
  | failed new entered =>
      rw [show after.pending = _ from congrArg Prod.snd entered]
      exact only
  | walked count tableOffset nextRelative table exifIfd new inside read pointer entered =>
      rw [show after.pending = _ from congrArg Prod.snd entered]
      rw [if_neg other] at pointer
      subst pointer
      intro task listed
      rcases List.mem_append.mp listed with new | old
      · exact followingTasks_none _ _ task new
      · exact only task old

theorem Rounds.successors (keeps : reader.Keeps Extraction.locals) {state after : Extraction}
    {tasks : List IfdTask} (rounds : Rounds reader walk state tasks after)
    (only : OnlySuccessors state.pending) : OnlySuccessors after.pending := by
  induction rounds with
  | still state => exact only
  | @round state middle after task rest tasks popped ran more ih =>
      rw [popped] at only
      have role := only task List.mem_cons_self
      exact ih ((round_case keeps ran).successors (by rw [role]; decide)
        fun task listed => only task (List.mem_cons_of_mem _ listed))

/-- The Exif directory is the one to be walked behind the primary, when no other was entered. -/
theorem Rounds.exif (keeps : reader.Keeps Extraction.locals) {state after : Extraction} {firstIfd : Nat}
    {tasks rest : List IfdTask} (start : state.locals = ([], [⟨firstIfd, .primary, 1⟩]))
    (rounds : Rounds reader walk state tasks after) (popped : after.pending = task :: rest)
    (role : task.role = .exif) :
    tasks = [⟨firstIfd, .primary, 1⟩] ∧ after.visited = [walk.headerOffset + firstIfd] := by
  have pending : state.pending = [⟨firstIfd, .primary, 1⟩] := congrArg Prod.snd start
  have visited : state.visited = [] := congrArg Prod.fst start
  -- behind the primary directory, the Exif task is on top or there is none
  cases rounds with
  | still =>
      rw [pending] at popped
      cases popped
      exact nomatch role
  | @round _ middle _ first rest' tasks popped' ran more =>
      rw [pending] at popped'
      cases popped'
      have round := round_case keeps ran
      have gone : ∀ {state : Extraction} {tasks : List IfdTask},
          Rounds reader walk state tasks after → OnlySuccessors state.pending → False := by
        intro state tasks rounds only
        have last := rounds.successors keeps only task (popped ▸ List.mem_cons_self)
        rw [role] at last
        exact nomatch last
      cases round with
      | refused reason same =>
          refine (gone more ?_).elim
          rw [show middle.pending = _ from congrArg Prod.snd same]
          exact nofun
      | failed new entered =>
          refine (gone more ?_).elim
          rw [show middle.pending = _ from congrArg Prod.snd entered]
          exact nofun
      | walked count tableOffset nextRelative table exifIfd new inside read pointer entered =>
          have pushed : middle.pending = followingTasks 2 nextRelative exifIfd ++ [] :=
            congrArg Prod.snd entered
          rw [List.append_nil] at pushed
          cases exifIfd with
          | none =>
              refine (gone more ?_).elim
              rw [pushed]
              exact followingTasks_none _ _
          | some offset =>
              have others : OnlySuccessors (followingTasks 2 nextRelative none) :=
                followingTasks_none _ _
              have top : middle.pending =
                  ⟨offset, .exif, 2⟩ :: followingTasks 2 nextRelative none := pushed
              have primary : middle.visited = [walk.headerOffset + firstIfd] := by
                rw [show middle.visited = _ from congrArg Prod.fst entered, visited]
                rfl
              cases more with
              | still => exact ⟨rfl, primary⟩
              | @round _ later _ second rest'' tasks popped'' ran' more' =>
                  rw [top] at popped''
                  cases popped''
                  exact (gone more' ((round_case keeps ran').successors nofun others)).elim

/-- When the primary directory was walked, the Exif directory it points to is the next. -/
theorem Rounds.exif_next (keeps : reader.Keeps Extraction.locals) {state middle : Extraction} {firstIfd : Nat}
    (start : state.locals = ([], [⟨firstIfd, .primary, 1⟩]))
    (ran : processIfd reader walk ⟨firstIfd, .primary, 1⟩ { state with pending := [] } =
      (.ok (), middle)) :
    ∃ begun ended count tableOffset table,
      readTable reader walk (walk.headerOffset + firstIfd) begun =
        (.ok (count, tableOffset, table), ended) ∧
      ∀ offset, exifIfdOf walk tableOffset table count = some offset →
        middle.visited = [walk.headerOffset + firstIfd] ∧
          ∃ rest, middle.pending = ⟨offset, .exif, 2⟩ :: rest := by
  have visited : state.visited = [] := congrArg Prod.fst start
  have result := processIfd_case walk ⟨firstIfd, .primary, 1⟩
    { state with pending := [] } keeps
  rw [ran] at result
  cases result with
  | walked _ count tableOffset nextRelative table exifIfd new inside read pointer entered =>
      obtain ⟨begun, ended, read⟩ := read
      refine ⟨begun, ended, count, tableOffset, table, read, fun offset found => ⟨?_, ?_⟩⟩
      · rw [show middle.visited = _ from congrArg Prod.fst entered, visited]
        rfl
      · rw [if_pos rfl, found] at pointer
        subst pointer
        exact ⟨_, congrArg Prod.snd entered⟩

end Rounds

end Tiff

end Guiying.Metadata
