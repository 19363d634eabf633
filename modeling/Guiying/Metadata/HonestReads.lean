import Guiying.Metadata.Reader

/-!
# Honest sources

A source over some bytes that answers every read inside them with at least one byte, as short as
it likes, makes each read of a reader yield the bytes themselves, unless a budget is spent first.
-/

namespace Guiying.Metadata

open Guiying.Foundation Guiying.Foundation.ByteString Guiying.Foundation.MachineInt

/-! ## What a program yields -/

/-- Every counter is within its limit. -/
structure WithinBudget (reader : BudgetedReader) (state : Extraction) : Prop where
  bytesRead : state.usage.bytesRead ≤ reader.limits.maxTotalBytesRead
  readOperations : state.usage.readOperations ≤ reader.limits.maxReadOperations
  retainedFieldBytes : state.usage.retainedFieldBytes ≤ reader.limits.maxRetainedFieldBytes
  fieldsEmitted : state.usage.fieldsEmitted ≤ reader.limits.maxFields
  jpegSegmentsVisited : state.usage.jpegSegmentsVisited ≤ reader.limits.maxJpegSegments
  ifdEntriesVisited : state.usage.ifdEntriesVisited ≤ reader.limits.maxIfdEntries
  bmffBoxesVisited : state.usage.bmffBoxesVisited ≤ reader.limits.maxBmffBoxes

/-- What a part of a run adds to the report. -/
structure Findings where
  fields : List MetadataField := []
  issues : List ParseError := []

namespace Findings

instance : EmptyCollection Findings := ⟨{}⟩

instance : Append Findings :=
  ⟨fun left right => ⟨left.fields ++ right.fields, left.issues ++ right.issues⟩⟩

theorem append_assoc (first second third : Findings) :
    first ++ second ++ third = first ++ (second ++ third) :=
  congrArg₂ Findings.mk (List.append_assoc _ _ _) (List.append_assoc _ _ _)

/-- The state after has these findings behind those of the state before. -/
structure Between (found : Findings) (before after : Extraction) : Prop where
  fields : after.fields = before.fields ++ found.fields
  issues : after.issues = before.issues ++ found.issues

/-- A step that touches neither list finds nothing. -/
theorem Between.none {before after : Extraction} (fields : after.fields = before.fields)
    (issues : after.issues = before.issues) : Between ∅ before after :=
  ⟨fields.trans (List.append_nil _).symm, issues.trans (List.append_nil _).symm⟩

theorem Between.refl (state : Extraction) : Between ∅ state state := .none rfl rfl

theorem Between.trans {first second : Findings} {start middle after : Extraction}
    (left : first.Between start middle) (right : second.Between middle after) :
    (first ++ second).Between start after := by
  constructor
  · rw [right.fields, left.fields]
    exact List.append_assoc _ _ _
  · rw [right.issues, left.issues]
    exact List.append_assoc _ _ _

end Findings

/-- A run ends as `outcome` says with these findings, or because a budget is spent. -/
def Ends {α : Type} (reader : BudgetedReader) (outcome : Except ParseError α) (found : Findings)
    (start : Extraction) : Except ParseError α × Extraction → Prop
  | (.ok value, after) =>
      outcome = .ok value ∧ WithinBudget reader after ∧ found.Between start after
  | (.error error, after) =>
      error.code = .limitExceeded ∨
        outcome = .error error ∧ WithinBudget reader after ∧ found.Between start after

/-- From any state within the budget the program ends as `outcome` says with these findings. -/
def Finds {α : Type} (reader : BudgetedReader) (outcome : Except ParseError α) (found : Findings)
    (program : Parse α) : Prop :=
  ∀ state, WithinBudget reader state → Ends reader outcome found state (program state)

/-- The program ends as `outcome` says and finds nothing. -/
def Yields {α : Type} (reader : BudgetedReader) (outcome : Except ParseError α)
    (program : Parse α) : Prop :=
  Finds reader outcome ∅ program

section Rules

variable {α β : Type} {reader : BudgetedReader} {program : Parse α} {next : α → Parse β}
  {found later : Findings}

theorem yields_pure (value : α) : Yields reader (.ok value) (pure value : Parse α) :=
  fun state within => ⟨rfl, within, .refl state⟩

theorem yields_fail (error : ParseError) :
    Yields reader (.error error) (Program.fail error : Parse α) :=
  fun state within => .inr ⟨rfl, within, .refl state⟩

theorem Finds.bind {value : α} {outcome : Except ParseError β}
    (first : Finds reader (.ok value) found program)
    (rest : Finds reader outcome later (next value)) :
    Finds reader outcome (found ++ later) (program >>= next) := by
  intro state within
  have ends := first state within
  rw [Program.bind_run]
  generalize program state = result at ends ⊢
  obtain ⟨ended, middle⟩ := result
  cases ended with
  | error error => exact ends.elim .inl fun same => nomatch same.1
  | ok ended =>
      obtain ⟨same, kept, gained⟩ := ends
      cases same
      have ends := rest middle kept
      dsimp only
      generalize next value middle = result at ends ⊢
      obtain ⟨ended, after⟩ := result
      cases ended with
      | ok ended => exact ⟨ends.1, ends.2.1, gained.trans ends.2.2⟩
      | error error =>
          exact ends.imp_right fun same => ⟨same.1, same.2.1, gained.trans same.2.2⟩

theorem Yields.bind_finds {value : α} {outcome : Except ParseError β}
    (first : Yields reader (.ok value) program)
    (rest : Finds reader outcome later (next value)) :
    Finds reader outcome later (program >>= next) :=
  Finds.bind first rest

theorem Yields.bind {value : α} {outcome : Except ParseError β}
    (first : Yields reader (.ok value) program) (rest : Yields reader outcome (next value)) :
    Yields reader outcome (program >>= next) :=
  first.bind_finds rest

/-- From every state within the budget the program spends it. -/
def Overspends {α : Type} (reader : BudgetedReader) (program : Parse α) : Prop :=
  ∀ state, WithinBudget reader state →
    ∃ error after, program state = (.error error, after) ∧ error.code = .limitExceeded

theorem Overspends.bind (first : Overspends reader program) :
    Overspends reader (program >>= next) := by
  intro state within
  obtain ⟨error, after, ran, spent⟩ := first state within
  exact ⟨error, after, by rw [Program.bind_run, ran], spent⟩

theorem Finds.bind_overspends {value : α} (first : Finds reader (.ok value) found program)
    (rest : Overspends reader (next value)) : Overspends reader (program >>= next) := by
  intro state within
  have ends := first state within
  rw [Program.bind_run]
  generalize program state = result at ends ⊢
  obtain ⟨ended, middle⟩ := result
  cases ended with
  | error error =>
      exact ⟨error, middle, rfl, ends.elim id fun same => nomatch same.1⟩
  | ok ended =>
      obtain ⟨same, kept, _⟩ := ends
      cases same
      exact rest middle kept

theorem yields_ensure {condition : Prop} [Decidable condition] (holds : condition)
    (error : ParseError) : Yields reader (.ok ()) (Program.ensure condition error) := by
  rw [decide_eq_true holds]
  exact yields_pure ()

theorem yields_checkedAdd {left right : Nat} (fits : left + right < u64Bound)
    (offset : Option Nat) (context : String) :
    Yields reader (.ok (left + right)) (Parse.checkedAdd left right offset context) := by
  rw [Parse.checkedAdd, checkedAdd, if_pos fits]
  exact yields_pure _

theorem yields_checkedSub {left right : Nat} (fits : right ≤ left)
    (offset : Option Nat) (context : String) :
    Yields reader (.ok (left - right)) (Parse.checkedSub left right offset context) := by
  rw [Parse.checkedSub, checkedSub, if_pos fits]
  exact yields_pure _

end Rules

/-! ## Reads -/

/-- The reader's source holds the bytes `contents` and answers a read inside them with a part of
what follows the offset, at least one byte of it. -/
structure Honest (reader : BudgetedReader) (contents : List UInt8) : Prop where
  sourceLen : reader.sourceLen = contents.length
  fits : contents.length < u64Bound
  answers : ∀ call offset room, offset < contents.length → 0 < room →
    ∃ count, 0 < count ∧ count ≤ room ∧ offset + count ≤ contents.length ∧
      reader.source.readAt call offset room = some (slice contents offset count)

/-- A source over bytes in memory. -/
def sliceSource (contents : List UInt8) : ReadAtSource :=
  ⟨some contents.length, fun _ offset room => some (slice contents offset room)⟩

theorem honest_sliceSource {contents : List UInt8} (fits : contents.length < u64Bound)
    (limits : ExtractionLimits) :
    Honest (BudgetedReader.new (sliceSource contents) contents.length limits) contents where
  sourceLen := rfl
  fits := fits
  answers _ offset room inside positive := by
    refine ⟨min room (contents.length - offset), by omega, by omega, by omega, ?_⟩
    have whole : slice contents offset room =
        slice contents offset (min room (contents.length - offset)) := by
      unfold slice
      rw [← List.length_drop, ← List.take_take, List.take_length]
    exact congrArg some whole

theorem limits_hard (reader : BudgetedReader) :
    reader.limits.maxTotalBytesRead ≤ 64 * 1024 * 1024 ∧
      reader.limits.maxReadOperations ≤ 262144 ∧ reader.limits.maxBmffBoxes ≤ 65536 ∧
      reader.limits.maxJpegSegments ≤ 65536 ∧ reader.limits.maxIfdEntries ≤ 65536 ∧
      reader.limits.maxFields ≤ 4096 ∧
      reader.limits.maxRetainedFieldBytes ≤ 16 * 1024 * 1024 := by
  rw [← reader.hardened]
  simp only [ExtractionLimits.effective]
  omega

def Spent (error : ParseError) (_ : Extraction) : Prop := error.code = .limitExceeded

theorem yields_of_meets {α : Type} {reader : BudgetedReader} {value : α} {program : Parse α}
    (meets : ∀ start, Program.Meets (fun state => state = start ∧ WithinBudget reader state)
      program (fun result state => result = value ∧ WithinBudget reader state ∧
        Findings.Between ∅ start state) Spent) :
    Yields reader (.ok value) program := by
  intro state within
  have result := meets state state ⟨rfl, within⟩
  generalize program state = ran at result ⊢
  obtain ⟨outcome, after⟩ := ran
  cases outcome with
  | ok found => exact ⟨congrArg _ result.1.symm, result.2⟩
  | error error => exact .inl result

/-- What reading `count` bytes in some number of calls, at least `operations`, does to a state. -/
structure Used (reader : BudgetedReader) (start : Extraction) (count operations : Nat)
    (state : Extraction) : Prop where
  within : WithinBudget reader state
  bytesRead : state.usage.bytesRead = start.usage.bytesRead + count
  readOperations : start.usage.readOperations + operations ≤ state.usage.readOperations
  frame : state = { start with usage := { start.usage with
    bytesRead := state.usage.bytesRead, readOperations := state.usage.readOperations } }

section Honest

variable {reader : BudgetedReader} {start : Extraction} {count operations : Nat}

theorem Used.refl (within : WithinBudget reader start) : Used reader start 0 0 start :=
  ⟨within, rfl, Nat.le_refl _, rfl⟩

theorem Used.between {state : Extraction} (used : Used reader start count operations state) :
    Findings.Between ∅ start state := by
  rw [used.frame]
  exact .none rfl rfl

theorem meets_countOperation (offset : Nat) :
    Program.Meets (Used reader start count operations) (reader.countOperation offset)
      (fun _ => Used reader start count (operations + 1)) Spent := by
  intro state used
  have hard := limits_hard reader
  have fits : state.usage.readOperations + 1 < u64Bound := by
    have := used.within.readOperations
    simp only [u64Bound]
    omega
  simp only [BudgetedReader.countOperation, Parse.usage, Parse.checkedAdd, checkedAdd, if_pos fits,
    Program.orFail_some, Parse.setUsage, Program.bind_run, Program.pure_run, Program.update]
  by_cases allowed : state.usage.readOperations + 1 ≤ reader.limits.maxReadOperations
  · simp only [allowed, decide_true, Program.ensure_true, Program.pure_run]
    have counted := used.readOperations
    refine ⟨{ used.within with readOperations := allowed }, used.bytesRead, ?_, ?_⟩
    · dsimp only
      omega
    · dsimp only
      rw [used.frame]
  · simp only [allowed, decide_false, Program.ensure_false]
    rfl

theorem meets_countBytes (readOffset : Nat) {read : Nat} (small : read < u32Bound) :
    Program.Meets (Used reader start count operations) (reader.countBytes readOffset read)
      (fun _ => Used reader start (count + read) operations) Spent := by
  intro state used
  have hard := limits_hard reader
  have fits : state.usage.bytesRead + read < u64Bound := by
    have := used.within.bytesRead
    simp only [u64Bound, u32Bound] at *
    omega
  simp only [BudgetedReader.countBytes, Parse.usage, Parse.checkedAdd, checkedAdd, if_pos fits,
    Program.orFail_some, Parse.setUsage, Program.bind_run, Program.pure_run, Program.update]
  by_cases allowed : state.usage.bytesRead + read ≤ reader.limits.maxTotalBytesRead
  · simp only [allowed, decide_true, Program.ensure_true, Program.pure_run]
    have counted := used.bytesRead
    refine ⟨{ used.within with bytesRead := allowed }, ?_, used.readOperations, ?_⟩
    · dsimp only
      omega
    · dsimp only
      rw [used.frame]
  · simp only [allowed, decide_false, Program.ensure_false]
    rfl

theorem yields_visitJpegSegment (offset : Nat) :
    Yields reader (.ok ()) (reader.visitJpegSegment offset) := by
  refine yields_of_meets fun start state holds => ?_
  obtain ⟨rfl, within⟩ := holds
  have hard := limits_hard reader
  have fits : state.usage.jpegSegmentsVisited + 1 < u32Bound := by
    have := within.jpegSegmentsVisited
    simp only [u32Bound]
    omega
  simp only [BudgetedReader.visitJpegSegment, Parse.usage, checkedAdd, if_pos fits,
    Program.orFail_some, Parse.setUsage, Program.bind_run, Program.pure_run, Program.update]
  by_cases allowed : state.usage.jpegSegmentsVisited + 1 ≤ reader.limits.maxJpegSegments
  · simp only [allowed, decide_true, Program.ensure_true, Program.pure_run]
    exact ⟨trivial, { within with jpegSegmentsVisited := allowed }, .none rfl rfl⟩
  · simp only [allowed, decide_false, Program.ensure_false]
    rfl

variable {contents : List UInt8} {offset length : Nat}

/-- Each round completes a longer part of the range. -/
theorem meets_readLoop (honest : Honest reader contents)
    (inside : offset + length ≤ contents.length) (small : length < u32Bound) (context : String) :
    ∀ (rounds done operations : Nat), done ≤ length → length - done ≤ rounds →
      min 1 done ≤ operations →
      Program.Meets (Used reader start done operations)
        (reader.readLoop offset length context rounds (slice contents offset done))
        (fun result state => result = slice contents offset length ∧
          Used reader start length (min 1 length) state)
        Spent
  | 0, done, operations, within, enough, called => by
      have all : done = length := by omega
      subst all
      exact Program.meets_pure fun _ used =>
        ⟨rfl, { used with readOperations := by have := used.readOperations; omega }⟩
  | rounds + 1, done, operations, within, enough, called => by
      have size : (slice contents offset done).length = done := length_slice (by omega)
      unfold BudgetedReader.readLoop
      rw [size]
      by_cases unfinished : done < length
      · rw [if_pos unfinished]
        refine Program.meets_via (fun _ => Used reader start done (operations + 1))
          (meets_countOperation offset) fun call => ?_
        have fits : offset + done < u64Bound := by
          have := honest.fits
          omega
        obtain ⟨count, positive, room, stop, answer⟩ :=
          honest.answers call (offset + done) (length - done) (by omega) (by omega)
        have counted : (slice contents (offset + done) count).length = count := length_slice stop
        have nonempty : slice contents (offset + done) count ≠ [] := by
          intro none
          rw [none] at counted
          simp only [List.length_nil] at counted
          omega
        simp only [Parse.checkedAdd, checkedAdd, if_pos fits, Program.orFail_some,
          Program.ret_bind, answer, counted, nonempty, room, ne_eq, not_false_eq_true, decide_true,
          Program.ensure_true, slice_append]
        refine Program.meets_via (fun _ => Used reader start (done + count) (operations + 1))
          (meets_countBytes _ (by omega)) fun _ => ?_
        exact meets_readLoop honest inside small context rounds (done + count) (operations + 1)
          (by omega) (by omega) (by omega)
      · rw [if_neg unfinished]
        have all : done = length := by omega
        subst all
        exact Program.meets_pure fun _ used =>
          ⟨rfl, { used with readOperations := by have := used.readOperations; omega }⟩

/-- A read inside the source. -/
theorem meets_readVec (honest : Honest reader contents)
    (inside : offset + length ≤ contents.length) (context : String) (start : Extraction) :
    Program.Meets (fun state => state = start ∧ WithinBudget reader state)
      (reader.readVec offset length context)
      (fun result state => result = slice contents offset length ∧
        length ≤ hardMaxSingleReadBytes ∧ Used reader start length (min 1 length) state)
      Spent := by
  have fits : offset + length < u64Bound := lt_of_le_of_lt inside honest.fits
  have stop : offset + length ≤ reader.sourceLen := by rwa [honest.sourceLen]
  unfold BudgetedReader.readVec
  simp only [Parse.checkedAdd, checkedAdd, if_pos fits, Program.orFail_some, Program.ret_bind,
    stop, decide_true, Program.ensure_true]
  refine Program.meets_ensure_bind (fun _ _ _ => rfl) fun single => ?_
  have single := of_decide_eq_true single
  rintro state ⟨rfl, within⟩
  have hard := limits_hard reader
  have small : length < u32Bound := by
    simp only [hardMaxSingleReadBytes] at single
    simp only [u32Bound]
    omega
  have projected : state.usage.bytesRead + length < u64Bound := by
    have := within.bytesRead
    simp only [u64Bound, u32Bound] at *
    omega
  rw [Program.bind_run]
  simp only [Parse.usage, if_pos projected, Program.orFail_some, Program.ret_bind]
  have loop : Program.Meets (Used reader state 0 0)
      (reader.readLoop offset length context length [])
      (fun result after => result = slice contents offset length ∧
        length ≤ hardMaxSingleReadBytes ∧ Used reader state length (min 1 length) after) Spent :=
    (meets_readLoop honest inside small context length 0 0 (Nat.zero_le _) (by omega)
      (by omega)).consequence (fun _ used => used) (fun _ _ done => ⟨done.1, single, done.2⟩)
      fun _ _ spent => spent
  exact Program.meets_ensure_bind (fun _ _ _ => rfl) (fun _ => loop) state (.refl within)

theorem yields_readVec (honest : Honest reader contents)
    (inside : offset + length ≤ contents.length) (context : String) :
    Yields reader (.ok (slice contents offset length)) (reader.readVec offset length context) :=
  yields_of_meets fun start =>
    (meets_readVec honest inside context start).consequence (fun _ holds => holds)
      (fun _ _ done => ⟨done.1, done.2.2.within, done.2.2.between⟩) fun _ _ spent => spent

end Honest

end Guiying.Metadata
