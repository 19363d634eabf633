import Guiying.Foundation.ByteString
import Guiying.Foundation.Program

/-!
# Reading an open file

An open file answers a read with as many bytes as it likes, at least one before the end, and may
interrupt a read any number of times first. The readers retry until they have what they asked for.
-/

namespace Guiying.Core

open Guiying.Foundation Guiying.Foundation.ByteString

inductive IoErrorKind where
  | interrupted
  | unexpectedEof
  | invalidData
  | other
  deriving DecidableEq

structure IoError where
  kind : IoErrorKind
  message : String
  deriving DecidableEq

/-- How a file answers one read: interrupted so many times first, then with a failure or with at
most so many bytes. -/
structure ReadPattern where
  interrupts : Nat
  failure : Option IoError
  atMost : Nat

/-- An open file at a position, with the interrupts still to come before its next answer. -/
structure FileReader where
  content : List UInt8
  position : Nat
  pattern : Nat → ReadPattern
  call : Nat
  interrupts : Nat

namespace FileReader

/-- Behind one more answer. -/
def answered (reader : FileReader) : FileReader :=
  { reader with
    call := reader.call + 1
    interrupts := (reader.pattern (reader.call + 1)).interrupts }

def seek (reader : FileReader) (offset : Nat) : FileReader := { reader with position := offset }

/-- A read into a buffer of `room` bytes; no bytes at the end of the file. -/
def read (reader : FileReader) (room : Nat) : Except IoError (List UInt8) × FileReader :=
  if 0 < reader.interrupts then
    (.error ⟨.interrupted, "interrupted"⟩, { reader with interrupts := reader.interrupts - 1 })
  else
    let answer := reader.pattern reader.call
    match answer.failure with
    | some error => (.error error, reader.answered)
    | none =>
        let available := min room (reader.content.length - reader.position)
        let count := min available (max 1 answer.atMost)
        (.ok (slice reader.content reader.position count),
          reader.answered.seek (reader.position + count))

/-- The reads it takes to get so many answers, interrupted ones among them. -/
def rounds (reader : FileReader) : Nat → Nat
  | 0 => 0
  | count + 1 => reader.interrupts + 1 + reader.answered.rounds count

/-- The file at a position of its content, none of whose reads fails. -/
structure Stands (reader : FileReader) (content : List UInt8) (position : Nat) : Prop where
  content : reader.content = content
  position : reader.position = position
  steady : ∀ call, (reader.pattern call).failure = none

theorem Stands.seek {reader : FileReader} {content : List UInt8} {position : Nat}
    (stands : reader.Stands content position) (offset : Nat) :
    (reader.seek offset).Stands content offset :=
  ⟨stands.content, rfl, stands.steady⟩

theorem rounds_mono (reader : FileReader) {fewer more : Nat} (le : fewer ≤ more) :
    reader.rounds fewer ≤ reader.rounds more := by
  induction more generalizing reader fewer with
  | zero =>
      rw [Nat.le_zero.mp le]
  | succ more ih =>
      cases fewer with
      | zero => exact Nat.zero_le _
      | succ fewer => exact Nat.add_le_add_left (ih reader.answered (Nat.le_of_succ_le_succ le)) _

/-- Only no answers take no reads. -/
theorem rounds_le_zero {reader : FileReader} {count : Nat} (enough : reader.rounds count ≤ 0) :
    count = 0 := by
  cases count with
  | zero => rfl
  | succ count =>
      rw [rounds] at enough
      omega

/-- Where a file stands does not matter to its answers to come. -/
theorem rounds_seek (reader : FileReader) (offset count : Nat) :
    (reader.seek offset).rounds count = reader.rounds count := by
  induction count generalizing reader with
  | zero => rfl
  | succ count ih => exact congrArg (reader.interrupts + 1 + ·) (ih reader.answered)

theorem rounds_interrupted {reader : FileReader} (interrupted : 0 < reader.interrupts)
    (count : Nat) :
    FileReader.rounds { reader with interrupts := reader.interrupts - 1 } (count + 1) + 1 =
      reader.rounds (count + 1) := by
  change reader.interrupts - 1 + 1 + reader.answered.rounds count + 1 =
    reader.interrupts + 1 + reader.answered.rounds count
  omega

/-- What a read into a buffer does. -/
inductive ReadCase (reader : FileReader) (content : List UInt8) (position room : Nat) :
    Except IoError (List UInt8) × FileReader → Prop where
  | interrupted (error : IoError) (next : FileReader) (kind : error.kind = .interrupted)
      (stands : next.Stands content position)
      (fewer : ∀ count, next.rounds (count + 1) + 1 = reader.rounds (count + 1)) :
      ReadCase reader content position room (.error error, next)
  | ended (next : FileReader) (past : content.length ≤ position)
      (stands : next.Stands content position) :
      ReadCase reader content position room (.ok [], next)
  | some (next : FileReader) (count : Nat) (positive : 0 < count) (fits : count ≤ room)
      (inside : position + count ≤ content.length)
      (stands : next.Stands content (position + count))
      (fewer : ∀ more, next.rounds more + 1 = reader.rounds (more + 1)) :
      ReadCase reader content position room (.ok (slice content position count), next)

theorem read_cases {reader : FileReader} {content : List UInt8} {position room : Nat}
    (stands : reader.Stands content position) (positive : 0 < room) :
    ReadCase reader content position room (reader.read room) := by
  obtain ⟨rfl, rfl, steady⟩ := stands
  unfold read
  by_cases interrupted : 0 < reader.interrupts
  · rw [if_pos interrupted]
    exact .interrupted _ _ rfl ⟨rfl, rfl, steady⟩ fun count => rounds_interrupted interrupted count
  · rw [if_neg interrupted]
    dsimp only
    rw [steady reader.call]
    dsimp only
    have fewer : ∀ offset more,
        (reader.answered.seek offset).rounds more + 1 = reader.rounds (more + 1) := by
      intro offset more
      rw [rounds_seek]
      change _ = reader.interrupts + 1 + reader.answered.rounds more
      omega
    generalize counted : min (min room (reader.content.length - reader.position))
      (max 1 (reader.pattern reader.call).atMost) = count
    by_cases past : reader.content.length ≤ reader.position
    · have none : count = 0 := by omega
      subst none
      exact .ended _ past ⟨rfl, rfl, steady⟩
    · exact .some _ count (by omega) (by omega) (by omega) ⟨rfl, rfl, steady⟩ (fewer _)

end FileReader

/-! ## Reading exactly -/

/-- The loop of an exact read: `wanted` more bytes behind those done, in so many reads at most. -/
def readExactLoop (unexpectedEof : (expected actual : Nat) → IoError) :
    Nat → FileReader → Nat → List UInt8 → Except IoError (List UInt8 × FileReader)
  | 0, reader, _, done => .ok (done, reader)
  | rounds + 1, reader, wanted, done =>
      if wanted = 0 then .ok (done, reader)
      else
        match reader.read wanted with
        | (.ok [], _) => .error (unexpectedEof (done.length + wanted) done.length)
        | (.ok bytes, next) =>
            readExactLoop unexpectedEof rounds next (wanted - bytes.length) (done ++ bytes)
        | (.error error, next) =>
            if error.kind = .interrupted then readExactLoop unexpectedEof rounds next wanted done
            else .error error

def unexpectedEofError (expected actual : Nat) : IoError :=
  ⟨.unexpectedEof, s!"expected {expected} bytes, read {actual}"⟩

def readExactOrUnexpectedEof (reader : FileReader) (length : Nat) :
    Except IoError (List UInt8 × FileReader) :=
  readExactLoop unexpectedEofError (reader.rounds length) reader length []

/-- `Read::read_exact` of the standard library. -/
def readExact (reader : FileReader) (length : Nat) : Except IoError (List UInt8 × FileReader) :=
  readExactLoop (fun _ _ => ⟨.unexpectedEof, "failed to fill whole buffer"⟩)
    (reader.rounds length) reader length []

/-- The loop of the probe for the end. -/
def ensureEofLoop (beyond : (read : Nat) → IoError) : Nat → FileReader → Except IoError FileReader
  | 0, reader => .ok reader
  | rounds + 1, reader =>
      match reader.read 1 with
      | (.ok [], next) => .ok next
      | (.ok bytes, _) => .error (beyond bytes.length)
      | (.error error, next) =>
          if error.kind = .interrupted then ensureEofLoop beyond rounds next else .error error

def ensureReaderEof (reader : FileReader) : Except IoError FileReader :=
  ensureEofLoop (fun read => ⟨.invalidData,
    s!"file contains data beyond its declared length (read {read} extra byte)"⟩)
    (reader.rounds 1) reader

def ensureEof (reader : FileReader) : Except IoError FileReader :=
  ensureEofLoop (fun read => ⟨.invalidData,
    s!"file contains {read} byte beyond its observed length"⟩) (reader.rounds 1) reader

/-- A read that is never interrupted. -/
def readRetryLoop (room : Nat) : Nat → FileReader → Except IoError (List UInt8) × FileReader
  | 0, reader => (.ok [], reader)
  | rounds + 1, reader =>
      match reader.read room with
      | (.error error, next) =>
          if error.kind = .interrupted then readRetryLoop room rounds next else (.error error, next)
      | result => result

def readRetry (reader : FileReader) (room : Nat) : Except IoError (List UInt8) × FileReader :=
  readRetryLoop room (reader.rounds 1) reader

section Specs

variable {content : List UInt8} {position : Nat} {reader : FileReader}

/-- An exact read returns the bytes that follow, or fails where there are too few. -/
theorem readExactLoop_spec (unexpectedEof : (expected actual : Nat) → IoError) :
    ∀ (rounds : Nat) (reader : FileReader) (position wanted : Nat) (done : List UInt8),
      reader.Stands content position → reader.rounds wanted ≤ rounds →
      (position + wanted ≤ content.length →
        ∃ next, readExactLoop unexpectedEof rounds reader wanted done =
            .ok (done ++ slice content position wanted, next) ∧
          next.Stands content (position + wanted)) ∧
      (0 < wanted → content.length < position + wanted →
        ∃ error, readExactLoop unexpectedEof rounds reader wanted done = .error error) := by
  intro rounds
  induction rounds with
  | zero =>
      intro reader position wanted done stands enough
      obtain rfl := FileReader.rounds_le_zero enough
      exact ⟨fun _ => ⟨reader, by simp [readExactLoop, slice], stands⟩, nofun⟩
  | succ rounds ih =>
      intro reader position wanted done stands enough
      unfold readExactLoop
      cases wanted with
      | zero =>
          rw [if_pos rfl]
          exact ⟨fun _ => ⟨reader, by simp [slice], stands⟩, nofun⟩
      | succ wanted =>
          have read := FileReader.read_cases stands (Nat.succ_pos wanted)
          rw [if_neg (Nat.succ_ne_zero wanted)]
          generalize reader.read (wanted + 1) = result at read ⊢
          cases read with
          | interrupted error next kind stands fewer =>
              have less := fewer wanted
              dsimp only
              rw [if_pos kind]
              exact ih next position (wanted + 1) done stands (by omega)
          | ended next past _ =>
              exact ⟨fun inside => absurd inside (by omega), fun _ _ => ⟨_, rfl⟩⟩
          | some next count positive fits inside stands fewer =>
              have size : (slice content position count).length = count := length_slice inside
              have less := fewer wanted
              have fewerLeft : next.rounds (wanted + 1 - count) ≤ next.rounds wanted :=
                next.rounds_mono (by omega)
              have rest := ih next (position + count) (wanted + 1 - count)
                (done ++ slice content position count) stands (by omega)
              rw [List.append_assoc, slice_append, show position + count + (wanted + 1 - count) =
                position + (wanted + 1) by omega, Nat.add_sub_cancel' fits] at rest
              obtain ⟨first, others, bytes⟩ : ∃ first others,
                  slice content position count = first :: others :=
                List.exists_cons_of_length_pos (by omega)
              rw [bytes] at size rest ⊢
              dsimp only
              rw [size]
              exact ⟨rest.1, fun _ short => rest.2 (by omega) short⟩

/-- A probe passes exactly at the end. -/
theorem ensureEofLoop_spec (beyond : (read : Nat) → IoError) :
    ∀ (rounds : Nat) (reader : FileReader), reader.Stands content position →
      reader.rounds 1 ≤ rounds →
      (content.length ≤ position → ∃ next, ensureEofLoop beyond rounds reader = .ok next) ∧
      (position < content.length → ∃ error, ensureEofLoop beyond rounds reader = .error error) := by
  intro rounds
  induction rounds with
  | zero =>
      intro reader stands enough
      exact absurd (FileReader.rounds_le_zero enough) Nat.one_ne_zero
  | succ rounds ih =>
      intro reader stands enough
      have read := FileReader.read_cases stands Nat.one_pos
      unfold ensureEofLoop
      generalize reader.read 1 = result at read ⊢
      cases read with
      | interrupted error next kind stands fewer =>
          have less : next.rounds 1 + 1 = reader.rounds 1 := fewer 0
          dsimp only
          rw [if_pos kind]
          exact ih next stands (by omega)
      | ended next past _ => exact ⟨fun _ => ⟨next, rfl⟩, fun early => absurd past (by omega)⟩
      | some next count positive fits inside stands fewer =>
          have size : (slice content position count).length = count := length_slice inside
          obtain ⟨first, others, bytes⟩ : ∃ first others,
              slice content position count = first :: others :=
            List.exists_cons_of_length_pos (by omega)
          rw [bytes]
          exact ⟨fun past => absurd past (by omega), fun _ => ⟨_, rfl⟩⟩

/-- What a read that is never interrupted does. -/
inductive RetryCase (reader : FileReader) (content : List UInt8) (position room : Nat) :
    Except IoError (List UInt8) × FileReader → Prop where
  | ended (next : FileReader) (past : content.length ≤ position) :
      RetryCase reader content position room (.ok [], next)
  | some (next : FileReader) (count : Nat) (positive : 0 < count) (fits : count ≤ room)
      (inside : position + count ≤ content.length)
      (stands : next.Stands content (position + count)) :
      RetryCase reader content position room (.ok (slice content position count), next)

theorem readRetryLoop_spec {room : Nat} (positive : 0 < room) :
    ∀ (rounds : Nat) (reader : FileReader), reader.Stands content position →
      reader.rounds 1 ≤ rounds →
      RetryCase reader content position room (readRetryLoop room rounds reader) := by
  intro rounds
  induction rounds with
  | zero =>
      intro reader stands enough
      exact absurd (FileReader.rounds_le_zero enough) Nat.one_ne_zero
  | succ rounds ih =>
      intro reader stands enough
      have read := FileReader.read_cases stands positive
      unfold readRetryLoop
      generalize reader.read room = result at read ⊢
      cases read with
      | interrupted error next kind stands fewer =>
          have less : next.rounds 1 + 1 = reader.rounds 1 := fewer 0
          dsimp only
          rw [if_pos kind]
          have rest := ih next stands (by omega)
          generalize readRetryLoop room rounds next = result at rest ⊢
          cases rest with
          | ended last past => exact .ended last past
          | some last count positive fits inside stands =>
              exact .some last count positive fits inside stands
      | ended next past _ => exact .ended next past
      | some next count positive fits inside stands _ =>
          exact .some next count positive fits inside stands

theorem readRetry_cases (stands : reader.Stands content position) {room : Nat}
    (positive : 0 < room) : RetryCase reader content position room (readRetry reader room) :=
  readRetryLoop_spec positive _ reader stands (Nat.le_refl _)

theorem readExactOrUnexpectedEof_ok (stands : reader.Stands content position) {wanted : Nat}
    (inside : position + wanted ≤ content.length) :
    ∃ next, readExactOrUnexpectedEof reader wanted = .ok (slice content position wanted, next) ∧
      next.Stands content (position + wanted) :=
  (readExactLoop_spec _ _ reader position wanted [] stands (Nat.le_refl _)).1 inside

theorem readExactOrUnexpectedEof_short (stands : reader.Stands content position) {wanted : Nat}
    (positive : 0 < wanted) (short : content.length < position + wanted) :
    ∃ error, readExactOrUnexpectedEof reader wanted = .error error :=
  (readExactLoop_spec _ _ reader position wanted [] stands (Nat.le_refl _)).2 positive short

theorem readExact_ok (stands : reader.Stands content position) {wanted : Nat}
    (inside : position + wanted ≤ content.length) :
    ∃ next, readExact reader wanted = .ok (slice content position wanted, next) ∧
      next.Stands content (position + wanted) :=
  (readExactLoop_spec _ _ reader position wanted [] stands (Nat.le_refl _)).1 inside

end Specs

end Guiying.Core
