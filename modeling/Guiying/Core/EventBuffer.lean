import Guiying.Foundation.MachineInt

/-!
# The event buffer

Events are collected into batches bounded by count and by estimated bytes, and a
full batch is handed to the sink before the next event is accepted. The sink
answers each batch with acceptance or an error.
-/

namespace Guiying.Core

open Guiying.Foundation.MachineInt

structure StreamLimits where
  maxEventsPerBatch : Nat
  maxBytesPerBatch : Nat
  deriving DecidableEq

def streamEventBatchHardMax : Nat := 128
def streamEventBytesHardMax : Nat := 1024 * 1024
def streamEventBytesMin : Nat := 16 * 1024

/-- `StreamLimits::validate`. -/
def StreamLimits.Valid (limits : StreamLimits) : Prop :=
  (1 ≤ limits.maxEventsPerBatch ∧ limits.maxEventsPerBatch ≤ streamEventBatchHardMax) ∧
    (streamEventBytesMin ≤ limits.maxBytesPerBatch ∧
      limits.maxBytesPerBatch ≤ streamEventBytesHardMax)

instance (limits : StreamLimits) : Decidable limits.Valid :=
  inferInstanceAs (Decidable (_ ∧ _))

inductive EventBufferError (Failure : Type) where
  | sink (error : Failure)
  | eventTooLarge (estimated maximum : Nat)
  deriving DecidableEq

/-- The error of a sink, if any, for the batch that follows the batches it accepted. -/
abbrev Sink (Failure Event : Type) := List (List Event) → List Event → Option Failure

/-- `written` are the batches the sink accepted from this buffer. -/
structure EventBuffer (Event : Type) where
  limits : StreamLimits
  events : List Event
  estimatedBytes : Nat
  written : List (List Event)

namespace EventBuffer

variable {Failure Event : Type}

def new (limits : StreamLimits) : EventBuffer Event := ⟨limits, [], 0, []⟩

/-- Everything accepted so far, handed to the sink or not. -/
def pushed (buffer : EventBuffer Event) : List Event := buffer.written.flatten ++ buffer.events

def flush (sink : Sink Failure Event) (buffer : EventBuffer Event) :
    Except (EventBufferError Failure) Unit × EventBuffer Event :=
  if buffer.events = [] then (.ok (), buffer)
  else
    match sink buffer.written buffer.events with
    | some error => (.error (.sink error), buffer)
    | none =>
        (.ok (), ⟨buffer.limits, [], 0, buffer.written ++ [buffer.events]⟩)

/-- The second half of `push`: the event joins the batch, and a full batch is flushed. -/
def accept (size : Event → Nat) (sink : Sink Failure Event) (event : Event)
    (buffer : EventBuffer Event) : Except (EventBufferError Failure) Unit × EventBuffer Event :=
  let grown := { buffer with
    estimatedBytes := saturatingAdd u64Bound buffer.estimatedBytes (size event),
    events := buffer.events ++ [event] }
  if grown.events.length = grown.limits.maxEventsPerBatch then flush sink grown
  else (.ok (), grown)

/-- Whether a batch has no room left for an event of this size. -/
def full (buffer : EventBuffer Event) (size : Nat) : Bool :=
  !buffer.events.isEmpty &&
    (buffer.events.length == buffer.limits.maxEventsPerBatch ||
      decide (saturatingAdd u64Bound buffer.estimatedBytes size > buffer.limits.maxBytesPerBatch))

def push (size : Event → Nat) (sink : Sink Failure Event) (event : Event)
    (buffer : EventBuffer Event) : Except (EventBufferError Failure) Unit × EventBuffer Event :=
  if size event > buffer.limits.maxBytesPerBatch then
    (.error (.eventTooLarge (size event) buffer.limits.maxBytesPerBatch), buffer)
  else if buffer.full (size event) then
    match flush sink buffer with
    | (.error error, kept) => (.error error, kept)
    | (.ok (), flushed) => accept size sink event flushed
  else accept size sink event buffer

/-- A sequence of pushes, ended by the first that fails. -/
def pushAll (size : Event → Nat) (sink : Sink Failure Event) :
    List Event → EventBuffer Event → Except (EventBufferError Failure) Unit × EventBuffer Event
  | [], buffer => (.ok (), buffer)
  | event :: rest, buffer =>
      match push size sink event buffer with
      | (.error error, kept) => (.error error, kept)
      | (.ok (), grown) => pushAll size sink rest grown

def finish (sink : Sink Failure Event) (buffer : EventBuffer Event) :
    Except (EventBufferError Failure) Unit × EventBuffer Event := flush sink buffer

/-- A sink that accepts every batch. -/
def Accepting (sink : Sink Failure Event) : Prop := ∀ written batch, sink written batch = none

/-! ## What a push does -/

theorem flush_ok {sink : Sink Failure Event} {buffer flushed : EventBuffer Event}
    (done : flush sink buffer = (.ok (), flushed)) :
    flushed.events = [] ∧ flushed.pushed = buffer.pushed ∧ flushed.limits = buffer.limits := by
  unfold flush at done
  split at done
  · rename_i empty
    cases done
    exact ⟨empty, rfl, rfl⟩
  · split at done
    · cases done
    · cases done
      exact ⟨rfl, by simp [pushed], rfl⟩

/-- A failed flush keeps the buffer. -/
theorem flush_error {sink : Sink Failure Event} {buffer kept : EventBuffer Event}
    {error : EventBufferError Failure} (failed : flush sink buffer = (.error error, kept)) :
    kept = buffer := by
  unfold flush at failed
  split at failed
  · cases failed
  · split at failed
    · cases failed
      rfl
    · cases failed

theorem flush_of_accepting {sink : Sink Failure Event} (accepting : Accepting sink)
    (buffer : EventBuffer Event) : ∃ flushed, flush sink buffer = (.ok (), flushed) := by
  unfold flush
  split
  · exact ⟨_, rfl⟩
  · rw [accepting]
    exact ⟨_, rfl⟩

section Push

variable {size : Event → Nat} {sink : Sink Failure Event} {event : Event}
  {buffer grown : EventBuffer Event}

theorem accept_ok (done : accept size sink event buffer = (.ok (), grown)) :
    grown.pushed = buffer.pushed ++ [event] ∧ grown.limits = buffer.limits := by
  unfold accept at done
  dsimp only at done
  split at done
  · obtain ⟨_, same, limits⟩ := flush_ok done
    exact ⟨by rw [same]; simp [pushed], limits⟩
  · cases done
    exact ⟨by simp [pushed], rfl⟩

theorem push_ok (done : push size sink event buffer = (.ok (), grown)) :
    grown.pushed = buffer.pushed ++ [event] ∧ grown.limits = buffer.limits := by
  unfold push at done
  split at done
  · cases done
  split at done
  · split at done
    · cases done
    · rename_i flushed first
      obtain ⟨_, same, limits⟩ := flush_ok first
      obtain ⟨appended, kept⟩ := accept_ok done
      exact ⟨by rw [appended, same], kept.trans limits⟩
  · exact accept_ok done

/-- A failed push leaves a log that grew by the event or not at all. -/
theorem push_error {error : EventBufferError Failure}
    (failed : push size sink event buffer = (.error error, grown)) :
    grown.pushed = buffer.pushed ∨ grown.pushed = buffer.pushed ++ [event] := by
  have accepted : ∀ {start : EventBuffer Event},
      accept size sink event start = (.error error, grown) →
        grown.pushed = start.pushed ++ [event] := by
    intro start failed
    unfold accept at failed
    dsimp only at failed
    split at failed
    · rw [flush_error failed]
      simp [pushed]
    · cases failed
  unfold push at failed
  split at failed
  · cases failed
    exact Or.inl rfl
  split at failed
  · split at failed
    · rename_i first
      cases failed
      exact Or.inl (by rw [flush_error first])
    · rename_i flushed first
      exact Or.inr (by rw [accepted failed, (flush_ok first).2.1])
  · exact Or.inr (accepted failed)

theorem push_of_accepting (accepting : Accepting sink)
    (fits : size event ≤ buffer.limits.maxBytesPerBatch) :
    ∃ grown, push size sink event buffer = (.ok (), grown) := by
  have accepted : ∀ start : EventBuffer Event,
      ∃ grown, accept size sink event start = (.ok (), grown) := by
    intro start
    unfold accept
    dsimp only
    split
    · exact flush_of_accepting accepting _
    · exact ⟨_, rfl⟩
  unfold push
  rw [if_neg (not_lt.mpr fits)]
  split
  · obtain ⟨flushed, first⟩ := flush_of_accepting accepting buffer
    rw [first]
    exact accepted flushed
  · exact accepted buffer

theorem push_of_oversized (large : size event > buffer.limits.maxBytesPerBatch) :
    push size sink event buffer =
      (.error (.eventTooLarge (size event) buffer.limits.maxBytesPerBatch), buffer) := by
  rw [push, if_pos large]

end Push

section PushAll

variable {size : Event → Nat} {sink : Sink Failure Event} {events : List Event}
  {buffer grown : EventBuffer Event}

theorem pushAll_ok (done : pushAll size sink events buffer = (.ok (), grown)) :
    grown.pushed = buffer.pushed ++ events ∧ grown.limits = buffer.limits := by
  induction events generalizing buffer with
  | nil =>
      cases done
      exact ⟨(List.append_nil _).symm, rfl⟩
  | cons event rest ih =>
      rw [pushAll] at done
      split at done
      · cases done
      · rename_i middle first
        obtain ⟨appended, kept⟩ := push_ok first
        obtain ⟨later, limits⟩ := ih done
        exact ⟨by rw [later, appended]; simp, limits.trans kept⟩

/-- However a sequence of pushes ends, the log grows by some of its first events. -/
theorem pushAll_pushed (size : Event → Nat) (sink : Sink Failure Event) (events : List Event)
    (buffer : EventBuffer Event) :
    ∃ taken, taken <+: events ∧
      (pushAll size sink events buffer).2.pushed = buffer.pushed ++ taken := by
  induction events generalizing buffer with
  | nil => exact ⟨[], List.prefix_rfl, (List.append_nil _).symm⟩
  | cons event rest ih =>
      rw [pushAll]
      split
      · rename_i kept failed
        rcases push_error failed with same | appended
        · exact ⟨[], List.nil_prefix, by rw [same, List.append_nil]⟩
        · exact ⟨[event], by simp, appended⟩
      · rename_i middle first
        obtain ⟨taken, start, later⟩ := ih middle
        refine ⟨event :: taken, by simpa using start, ?_⟩
        rw [later, (push_ok first).1]
        simp

/-- Under an accepting sink a sequence of pushes succeeds exactly when every event fits. -/
theorem pushAll_of_accepting (accepting : Accepting sink) (buffer : EventBuffer Event) :
    (∃ grown, pushAll size sink events buffer = (.ok (), grown)) ↔
      ∀ event ∈ events, size event ≤ buffer.limits.maxBytesPerBatch := by
  induction events generalizing buffer with
  | nil => simp [pushAll]
  | cons event rest ih =>
      by_cases fits : size event ≤ buffer.limits.maxBytesPerBatch
      · obtain ⟨grown, first⟩ := push_of_accepting accepting fits
        rw [pushAll, first]
        simp only [ih grown, (push_ok first).2, List.mem_cons, forall_eq_or_imp, fits, true_and]
      · rw [pushAll, push_of_oversized (not_le.mp fits)]
        simp [fits]

end PushAll

end EventBuffer

end Guiying.Core
