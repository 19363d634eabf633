import Guiying.Core.StreamEvent

/-!
# The batches of an event buffer

What the sink is handed over the life of a buffer. Every user of a buffer returns the first
error of a push, and `finish` consumes the buffer, so a life is a sequence of pushes that ends
with the first failing one or with `finish`.
-/

namespace Guiying.Core

open Guiying.Foundation.MachineInt

namespace EventBuffer

variable {Failure Event : Type}

/-- The life of a buffer: the events pushed one after the other, then `finish`. -/
def run (size : Event → Nat) (sink : Sink Failure Event) (events : List Event)
    (buffer : EventBuffer Event) : Except (EventBufferError Failure) Unit × EventBuffer Event :=
  match pushAll size sink events buffer with
  | (.error error, kept) => (.error error, kept)
  | (.ok (), grown) => finish sink grown

/-- The batches the sink was handed: those it accepted, and the one it ended the run with. -/
def offered : Except (EventBufferError Failure) Unit × EventBuffer Event → List (List Event)
  | (.error (.sink _), kept) => kept.written ++ [kept.events]
  | (.error (.eventTooLarge _ _), kept) => kept.written
  | (.ok (), kept) => kept.written

/-- A batch within the limits. -/
structure BatchWithin (size : Event → Nat) (limits : StreamLimits) (batch : List Event) : Prop where
  nonempty : batch ≠ []
  count : batch.length ≤ limits.maxEventsPerBatch
  bytes : (batch.map size).sum ≤ limits.maxBytesPerBatch

/-- What the sink accepted: each batch after the ones before it. -/
def Accepted (sink : Sink Failure Event) (written : List (List Event)) : Prop :=
  ∀ before batch after, written = before ++ batch :: after → sink before batch = none

/-- A buffer that holds no more than a batch, and what it wrote so far. -/
structure Holds (size : Event → Nat) (sink : Sink Failure Event) (limits : StreamLimits)
    (buffer : EventBuffer Event) : Prop where
  limits_eq : buffer.limits = limits
  batches : ∀ batch ∈ buffer.written, BatchWithin size limits batch
  accepted : Accepted sink buffer.written
  count : buffer.events.length ≤ limits.maxEventsPerBatch
  counted : buffer.estimatedBytes = (buffer.events.map size).sum
  bytes : buffer.estimatedBytes ≤ limits.maxBytesPerBatch

/-- How a call or a run ends. -/
structure Ends (size : Event → Nat) (sink : Sink Failure Event) (limits : StreamLimits)
    (result : Except (EventBufferError Failure) Unit × EventBuffer Event) : Prop where
  holds : Holds size sink limits result.2
  rejected : ∀ error, result.1 = .error (.sink error) →
    result.2.events ≠ [] ∧ sink result.2.written result.2.events = some error

theorem Accepted.append {sink : Sink Failure Event} {written : List (List Event)}
    (accepted : Accepted sink written) {batch : List Event} (accepts : sink written batch = none) :
    Accepted sink (written ++ [batch]) := by
  intro before found after split
  rcases List.append_eq_append_iff.mp split with ⟨middle, beforeEq, rest⟩ | ⟨middle, same, rest⟩
  · cases middle with
    | nil =>
        obtain ⟨rfl, -⟩ := List.cons_eq_cons.mp rest
        rw [beforeEq, List.append_nil]
        exact accepts
    | cons first others =>
        have lengths := congrArg List.length rest
        simp at lengths
  · cases middle with
    | nil =>
        obtain ⟨rfl, -⟩ := List.cons_eq_cons.mp rest.symm
        rw [List.append_nil] at same
        rw [← same]
        exact accepts
    | cons first others =>
        obtain ⟨rfl, tail⟩ := List.cons_eq_cons.mp rest
        exact accepted before found others same

section Calls

variable {size : Event → Nat} {sink : Sink Failure Event} {limits : StreamLimits}
  {buffer : EventBuffer Event}

theorem new_holds (size : Event → Nat) (sink : Sink Failure Event) (limits : StreamLimits) :
    Holds size sink limits (new limits) where
  limits_eq := rfl
  batches := by simp [new]
  accepted := by
    intro before batch after split
    simp [new] at split
  count := by simp [new]
  counted := rfl
  bytes := Nat.zero_le _

@[simp] theorem new_pushed (limits : StreamLimits) :
    (new limits : EventBuffer Event).pushed = [] := rfl

theorem Holds.within (holds : Holds size sink limits buffer) (full : buffer.events ≠ []) :
    BatchWithin size limits buffer.events where
  nonempty := full
  count := holds.count
  bytes := holds.counted ▸ holds.bytes

theorem flush_ends (holds : Holds size sink limits buffer) :
    Ends size sink limits (flush sink buffer) ∧
      ((flush sink buffer).1 = .ok () → (flush sink buffer).2.events = []) := by
  unfold flush
  split
  · rename_i empty
    exact ⟨⟨holds, fun error failed => by cases failed⟩, fun _ => empty⟩
  · rename_i full
    split
    · rename_i error rejected
      refine ⟨⟨holds, fun other failed => ?_⟩, fun done => by cases done⟩
      cases failed
      exact ⟨full, rejected⟩
    · rename_i accepts
      refine ⟨⟨⟨holds.limits_eq, ?_, holds.accepted.append accepts, Nat.zero_le _, rfl,
        Nat.zero_le _⟩, fun error failed => by cases failed⟩, fun _ => rfl⟩
      intro batch listed
      rcases List.mem_append.mp listed with earlier | last
      · exact holds.batches batch earlier
      · rw [List.mem_singleton.mp last]
        exact holds.within full

/-- With room for the event, accepting it keeps the batch within its limits. -/
theorem accept_ends {event : Event} (valid : limits.Valid) (holds : Holds size sink limits buffer)
    (room : buffer.events.length < limits.maxEventsPerBatch)
    (fits : buffer.estimatedBytes + size event ≤ limits.maxBytesPerBatch) :
    Ends size sink limits (accept size sink event buffer) := by
  have small : limits.maxBytesPerBatch ≤ 1024 * 1024 := valid.2.2
  have sum : saturatingAdd u64Bound buffer.estimatedBytes (size event) =
      buffer.estimatedBytes + size event := by
    unfold saturatingAdd u64Bound
    rw [if_pos (by omega)]
  have grown : Holds size sink limits { buffer with
      estimatedBytes := saturatingAdd u64Bound buffer.estimatedBytes (size event),
      events := buffer.events ++ [event] } := by
    refine ⟨holds.limits_eq, holds.batches, holds.accepted, ?_, ?_, ?_⟩
    · rw [List.length_append, List.length_singleton]
      exact room
    · rw [sum, holds.counted]
      simp
    · rw [sum]
      exact fits
  unfold accept
  dsimp only
  split
  · exact (flush_ends grown).1
  · exact ⟨grown, fun error failed => by cases failed⟩

/-- A batch that is not full has room for the event. -/
theorem Holds.room {event : Event} (valid : limits.Valid) (holds : Holds size sink limits buffer)
    (fits : size event ≤ limits.maxBytesPerBatch) (open_ : buffer.full (size event) = false) :
    buffer.events.length < limits.maxEventsPerBatch ∧
      buffer.estimatedBytes + size event ≤ limits.maxBytesPerBatch := by
  have small : limits.maxBytesPerBatch ≤ 1024 * 1024 := valid.2.2
  have counted := holds.count
  by_cases empty : buffer.events = []
  · have none : buffer.estimatedBytes = 0 := by rw [holds.counted, empty]; rfl
    have one := valid.1.1
    rw [empty, none, Nat.zero_add]
    exact ⟨one, fits⟩
  · have listed : buffer.events.isEmpty = false := by simpa using empty
    simp only [full, holds.limits_eq, listed, Bool.not_false, Bool.true_and, Bool.or_eq_false_iff,
      beq_eq_false_iff_ne, decide_eq_false_iff_not, not_lt, saturatingAdd] at open_
    obtain ⟨short, bytes⟩ := open_
    unfold u64Bound at bytes
    split at bytes <;> omega

theorem push_ends (valid : limits.Valid) (holds : Holds size sink limits buffer) (event : Event) :
    Ends size sink limits (push size sink event buffer) := by
  unfold push
  rw [holds.limits_eq]
  split
  · exact ⟨holds, fun error failed => by cases failed⟩
  · rename_i fits
    have fits := not_lt.mp fits
    split
    · obtain ⟨ends, emptied⟩ := flush_ends holds
      split
      · rename_i error kept failed
        rw [failed] at ends
        exact ends
      · rename_i flushed done
        rw [done] at ends emptied
        have empty : flushed.events = [] := emptied rfl
        have none : flushed.estimatedBytes = 0 := by rw [ends.holds.counted, empty]; rfl
        apply accept_ends valid ends.holds
        · rw [empty]
          exact valid.1.1
        · rw [none, Nat.zero_add]
          exact fits
    · rename_i room
      obtain ⟨count, bytes⟩ := holds.room valid fits (by simpa using room)
      exact accept_ends valid holds count bytes

theorem pushAll_ends (valid : limits.Valid) (holds : Holds size sink limits buffer)
    (events : List Event) : Ends size sink limits (pushAll size sink events buffer) := by
  induction events generalizing buffer with
  | nil => exact ⟨holds, fun error failed => by cases failed⟩
  | cons event rest ih =>
      have step := push_ends valid holds event
      rw [pushAll]
      split
      · rename_i error kept failed
        rw [failed] at step
        exact step
      · rename_i grown done
        rw [done] at step
        exact ih step.holds

theorem run_ends (valid : limits.Valid) (holds : Holds size sink limits buffer)
    (events : List Event) : Ends size sink limits (run size sink events buffer) := by
  have pushes := pushAll_ends valid holds events
  unfold run
  split
  · rename_i error kept failed
    rw [failed] at pushes
    exact pushes
  · rename_i grown done
    rw [done] at pushes
    exact (flush_ends pushes.holds).1

/-! ## What the sink is handed -/

theorem Ends.batches {result : Except (EventBufferError Failure) Unit × EventBuffer Event}
    (ends : Ends size sink limits result) :
    ∀ batch ∈ offered result, BatchWithin size limits batch := by
  obtain ⟨outcome, kept⟩ := result
  match outcome with
  | .ok () => exact ends.holds.batches
  | .error (.eventTooLarge _ _) => exact ends.holds.batches
  | .error (.sink error) =>
      intro batch listed
      rcases List.mem_append.mp listed with earlier | last
      · exact ends.holds.batches batch earlier
      · rw [List.mem_singleton.mp last]
        exact ends.holds.within (ends.rejected error rfl).1

/-- A rejected batch is the last one, and its error is the result. -/
theorem Ends.rejected_last {result : Except (EventBufferError Failure) Unit × EventBuffer Event}
    (ends : Ends size sink limits result) {before after : List (List Event)} {batch : List Event}
    {error : Failure} (split : offered result = before ++ batch :: after)
    (rejects : sink before batch = some error) :
    after = [] ∧ result.1 = .error (.sink error) := by
  have accepted := ends.holds.accepted
  obtain ⟨outcome, kept⟩ := result
  match outcome with
  | .ok () => exact absurd ((accepted _ _ _ split).symm.trans rejects) (Option.some_ne_none _).symm
  | .error (.eventTooLarge _ _) =>
      exact absurd ((accepted _ _ _ split).symm.trans rejects) (Option.some_ne_none _).symm
  | .error (.sink other) =>
      have last := (ends.rejected other rfl).2
      rcases List.eq_nil_or_concat' after with none | ⟨rest, final, rfl⟩
      · subst none
        obtain ⟨same, found⟩ := List.append_inj' split rfl
        obtain ⟨rfl, -⟩ := List.cons_eq_cons.mp found
        rw [← same, last] at rejects
        cases rejects
        exact ⟨rfl, rfl⟩
      · have same : kept.written = before ++ batch :: rest := by
          have parts : kept.written ++ [kept.events] = (before ++ batch :: rest) ++ [final] := by
            rw [List.append_assoc]
            exact split
          exact (List.append_inj' parts rfl).1
        exact absurd ((accepted _ _ _ same).symm.trans rejects) (Option.some_ne_none _).symm

end Calls

section Runs

variable {size : Event → Nat} {sink : Sink Failure Event} {buffer : EventBuffer Event}

theorem pushAll_append (before after : List Event) :
    pushAll size sink (before ++ after) buffer =
      match pushAll size sink before buffer with
      | (.error error, kept) => (.error error, kept)
      | (.ok (), grown) => pushAll size sink after grown := by
  induction before generalizing buffer with
  | nil => rfl
  | cons event rest ih =>
      rw [List.cons_append, pushAll, pushAll]
      split
      · rfl
      · exact ih

/-- What the sink was handed comes first of what was accepted. -/
theorem offered_beginning (result : Except (EventBufferError Failure) Unit × EventBuffer Event) :
    (offered result).flatten <+: result.2.pushed := by
  obtain ⟨outcome, kept⟩ := result
  match outcome with
  | .ok () => exact List.prefix_append _ _
  | .error (.eventTooLarge _ _) => exact List.prefix_append _ _
  | .error (.sink error) => simp [offered, pushed]

/-- A push that fails ends the run, and nothing after its event is handed to the sink. -/
theorem run_of_failed {limits : StreamLimits} {before : List Event} (after : List Event)
    {event : Event} {grown kept : EventBuffer Event} {error : EventBufferError Failure}
    (pushes : pushAll size sink before (new limits) = (.ok (), grown))
    (failed : push size sink event grown = (.error error, kept)) :
    run size sink (before ++ event :: after) (new limits) = (.error error, kept) ∧
      (offered (Except.error error, kept)).flatten <+: before ++ [event] := by
  constructor
  · unfold run
    rw [pushAll_append, pushes]
    dsimp only
    rw [pushAll, failed]
  · have start : grown.pushed = before := (pushAll_ok pushes).1
    refine (offered_beginning _).trans ?_
    rcases push_error failed with same | appended
    · rw [same, start]
      exact List.prefix_append _ _
    · rw [appended, start]

/-- An event that is too large is an error, and neither it nor a later one reaches the sink. -/
theorem run_of_oversized {limits : StreamLimits} {before after : List Event} {event : Event}
    (large : size event > limits.maxBytesPerBatch) :
    (∃ error, (run size sink (before ++ event :: after) (new limits)).1 = .error error) ∧
      (offered (run size sink (before ++ event :: after) (new limits))).flatten <+: before := by
  unfold run
  rw [pushAll_append]
  generalize pushes : pushAll size sink before (new limits) = first
  obtain ⟨outcome, kept⟩ := first
  cases outcome with
  | error error =>
      refine ⟨⟨error, rfl⟩, (offered_beginning _).trans ?_⟩
      obtain ⟨taken, start, same⟩ := pushAll_pushed size sink before (new limits)
      rw [pushes] at same
      rw [new_pushed, List.nil_append] at same
      rw [same]
      exact start
  | ok done =>
      obtain ⟨same, limitsEq⟩ := pushAll_ok pushes
      have kept_limits : kept.limits = limits := limitsEq
      dsimp only
      rw [pushAll, push_of_oversized (by rw [kept_limits]; exact large)]
      refine ⟨⟨_, rfl⟩, (offered_beginning _).trans ?_⟩
      rw [same, new_pushed, List.nil_append]

/-- A run that succeeds handed over everything. -/
theorem run_ok {limits : StreamLimits} {events : List Event}
    (done : (run size sink events (new limits)).1 = .ok ()) :
    (offered (run size sink events (new limits))).flatten = events := by
  unfold run at done ⊢
  generalize pushes : pushAll size sink events (new limits) = first at done ⊢
  obtain ⟨outcome, kept⟩ := first
  cases outcome with
  | error error => cases done
  | ok finished =>
      dsimp only at done ⊢
      generalize last : finish sink kept = final at done ⊢
      obtain ⟨outcome, flushed⟩ := final
      cases done
      obtain ⟨empty, same, -⟩ := flush_ok last
      have all := (pushAll_ok pushes).1
      rw [← same, pushed, empty, List.append_nil] at all
      simpa [offered, pushed, new] using all

theorem run_of_accepting {limits : StreamLimits} {events : List Event}
    (accepting : Accepting sink)
    (fits : ∀ event ∈ events, size event ≤ limits.maxBytesPerBatch) :
    (run size sink events (new limits)).1 = .ok () := by
  obtain ⟨grown, pushes⟩ := (pushAll_of_accepting accepting (new limits)).mpr fits
  obtain ⟨flushed, last⟩ := flush_of_accepting accepting grown
  unfold run
  rw [pushes]
  exact congrArg Prod.fst last

end Runs

/-- Under valid limits, whatever the sink answers: each batch is within the limits; a run that
succeeds hands over its events in order; an accepting sink and events that fit make it succeed; a
push that fails is the run's result and nothing after its event is handed over, nor is an event
that is too large; a rejected batch is the last one and its error is the result. -/
theorem run_batches (limits : StreamLimits) (valid : limits.Valid)
    (sink : Sink Failure StreamEvent) (events : List StreamEvent) :
    let result := run estimatedEventBytes sink events (new limits)
    (∀ batch ∈ offered result, batch ≠ [] ∧ batch.length ≤ limits.maxEventsPerBatch ∧
      (batch.map estimatedEventBytes).sum ≤ limits.maxBytesPerBatch) ∧
    (result.1 = .ok () → (offered result).flatten = events) ∧
    (Accepting sink → (∀ event ∈ events, estimatedEventBytes event ≤ limits.maxBytesPerBatch) →
      result.1 = .ok ()) ∧
    (∀ before event after, events = before ++ event :: after →
      ∀ grown error kept, pushAll estimatedEventBytes sink before (new limits) = (.ok (), grown) →
        push estimatedEventBytes sink event grown = (.error error, kept) →
        result = (.error error, kept) ∧ (offered result).flatten <+: before ++ [event]) ∧
    (∀ before event after, events = before ++ event :: after →
      estimatedEventBytes event > limits.maxBytesPerBatch →
      (∃ error, result.1 = .error error) ∧ (offered result).flatten <+: before) ∧
    (∀ before batch after error, offered result = before ++ batch :: after →
      sink before batch = some error → after = [] ∧ result.1 = .error (.sink error)) := by
  intro result
  have ends : Ends estimatedEventBytes sink limits result :=
    run_ends valid (new_holds estimatedEventBytes sink limits) events
  refine ⟨?_, run_ok, run_of_accepting, ?_, ?_, ?_⟩
  · intro batch listed
    have within := ends.batches batch listed
    exact ⟨within.nonempty, within.count, within.bytes⟩
  · rintro before event after rfl grown error kept pushes failed
    obtain ⟨same, start⟩ := run_of_failed after pushes failed
    have same : result = (.error error, kept) := same
    rw [same]
    exact ⟨rfl, start⟩
  · rintro before event after rfl large
    exact run_of_oversized large
  · intro before batch after error split rejects
    exact ends.rejected_last split rejects

section Samples

def sampleProgress : StreamEvent := .progress ⟨.enumerating, 1, none, none⟩

/-- An issue that leaves no room for another event. -/
def sampleIssue : StreamEvent :=
  .issue ⟨.fileUnreadable, .fromPath [47, 97], List.replicate (16 * 1024 - 165) 0x2E⟩

theorem sampleProgress_bytes : estimatedEventBytes sampleProgress = 128 := rfl

theorem sampleIssue_bytes : estimatedEventBytes sampleIssue = streamEventBytesMin := by
  simp only [estimatedEventBytes, sampleIssue, pathRefBytes, List.length_replicate]
  decide

def sampleEvents : List StreamEvent :=
  [sampleProgress, sampleIssue, sampleProgress, sampleProgress, sampleProgress, sampleProgress]

/-- A sink that takes two batches. -/
def takesTwo : Sink Unit StreamEvent :=
  fun written _ => if written.length < 2 then none else some ()

/-- Batches end at the bytes of the issue, at the count and at the end. A sink that takes only two
of them ends the run with the third. -/
theorem run_batches_sample :
    let limits : StreamLimits := ⟨3, streamEventBytesMin⟩
    let taken := run estimatedEventBytes (fun _ _ => (none : Option Unit)) sampleEvents (new limits)
    let refused := run estimatedEventBytes takesTwo sampleEvents (new limits)
    (offered taken = [[sampleProgress], [sampleIssue],
        [sampleProgress, sampleProgress, sampleProgress], [sampleProgress]] ∧
      taken.1 = .ok () ∧ (offered taken).flatten = sampleEvents) ∧
    offered refused = [[sampleProgress], [sampleIssue],
        [sampleProgress, sampleProgress, sampleProgress]] ∧
      refused.1 = .error (.sink ()) := by
  intro limits taken refused
  have valid : limits.Valid := by decide
  have fits : ∀ event ∈ sampleEvents, estimatedEventBytes event ≤ limits.maxBytesPerBatch := by
    simp [sampleEvents, sampleProgress_bytes, sampleIssue_bytes, limits, streamEventBytesMin]
  have takenBatches : offered taken = [[sampleProgress], [sampleIssue],
      [sampleProgress, sampleProgress, sampleProgress], [sampleProgress]] := by
    simp [taken, limits, sampleEvents, run, pushAll, push, full, accept, flush, finish, new,
      offered, sampleProgress_bytes, sampleIssue_bytes, streamEventBytesMin, saturatingAdd,
      u64Bound]
  have refusedBatches : offered refused = [[sampleProgress], [sampleIssue],
      [sampleProgress, sampleProgress, sampleProgress]] := by
    simp [refused, limits, sampleEvents, run, pushAll, push, full, accept, flush, new, offered,
      sampleProgress_bytes, sampleIssue_bytes, streamEventBytesMin, saturatingAdd, u64Bound,
      takesTwo]
  obtain ⟨-, concatenated, succeeds, -⟩ :=
    run_batches limits valid (fun _ _ => (none : Option Unit)) sampleEvents
  obtain ⟨-, -, -, -, -, rejects⟩ := run_batches limits valid takesTwo sampleEvents
  have done : taken.1 = .ok () := succeeds (fun _ _ => rfl) fits
  have third := rejects [[sampleProgress], [sampleIssue]] _ [] () refusedBatches rfl
  exact ⟨⟨takenBatches, done, concatenated done⟩, refusedBatches, third.2⟩

end Samples

end EventBuffer

end Guiying.Core
