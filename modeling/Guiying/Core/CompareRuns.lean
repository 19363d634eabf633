import Guiying.Core.CompareFiles

/-!
# What a comparison finds

However the files answer their reads, the loop either finds the first difference, or has read both
files as far as their snapshots say, or stops because one of them ends early.
-/

namespace Guiying.Core

open Guiying.Foundation Guiying.Foundation.ByteString Program

/-! ## Reads of both kinds -/

theorem safePoint_yields {ε : Type} {control : ScanControl} (undisturbed : control.Undisturbed)
    (cancelled : ε) {bad : ε → Prop} :
    Yields (safePoint control cancelled) (fun _ => True) bad := by
  intro poll _
  unfold safePoint
  rw [if_neg (undisturbed poll)]
  trivial

/-- Reads exactly what is asked for, or fails where the file is too short for it. -/
def ReadsExactly {ε : Type} (read : ExactRead ε) : Prop :=
  ∀ {reader : FileReader} {content : List UInt8} {position : Nat} (wanted : Nat),
    reader.Stands content position →
    (position + wanted ≤ content.length →
      Yields (read reader wanted) (fun result => result.1 = slice content position wanted ∧
        result.2.Stands content (position + wanted)) (fun _ => False)) ∧
    (0 < wanted → content.length < position + wanted →
      Yields (read reader wanted) (fun _ => False) (fun _ => True))

theorem readVerified_exactly (path : Path) : ReadsExactly (readVerified path) := by
  intro reader content position wanted stands
  unfold readVerified
  constructor
  · intro inside
    obtain ⟨next, result, moved⟩ := readExactOrUnexpectedEof_ok stands inside
    rw [result]
    exact yields_pure ⟨rfl, moved⟩
  · intro positive short
    obtain ⟨error, result⟩ := readExactOrUnexpectedEof_short stands positive short
    rw [result]
    exact yields_fail trivial

/-- Nobody cancels a read: it does what the plain read does. -/
theorem readExactCancelLoop_yields {control : ScanControl} (undisturbed : control.Undisturbed)
    (rounds : Nat) (reader : FileReader) (wanted : Nat) (done : List UInt8) :
    Yields (readExactCancelLoop control rounds reader wanted done)
      (fun result => readExactLoop unexpectedEofError rounds reader wanted done = .ok result)
      (fun _ => ∃ error,
        readExactLoop unexpectedEofError rounds reader wanted done = .error error) := by
  induction rounds generalizing reader wanted done with
  | zero => exact yields_pure rfl
  | succ rounds ih =>
      unfold readExactCancelLoop readExactLoop
      by_cases finished : wanted = 0
      · rw [if_pos finished, if_pos finished]
        exact yields_pure rfl
      · rw [if_neg finished, if_neg finished]
        refine (safePoint_yields undisturbed _).bind fun _ _ => ?_
        generalize reader.read wanted = result
        obtain ⟨outcome, next⟩ := result
        cases outcome with
        | error error =>
            dsimp only
            by_cases interrupted : error.kind = .interrupted
            · rw [if_pos interrupted, if_pos interrupted]
              exact ih next wanted done
            · rw [if_neg interrupted, if_neg interrupted]
              exact yields_fail ⟨error, rfl⟩
        | ok bytes =>
            cases bytes with
            | nil => exact yields_fail ⟨_, rfl⟩
            | cons first others => exact ih next _ _

theorem readExactCancel_exactly {control : ScanControl} (undisturbed : control.Undisturbed) :
    ReadsExactly (readExactCancel control) := by
  intro reader content position wanted stands
  have yields := readExactCancelLoop_yields undisturbed (reader.rounds wanted) reader wanted []
  obtain ⟨passes, fails⟩ := readExactLoop_spec unexpectedEofError _ reader position wanted []
    stands (Nat.le_refl _)
  constructor
  · intro inside
    obtain ⟨next, result, moved⟩ := passes inside
    rw [result] at yields
    refine yields.imp ?_ ?_
    · rintro _ ⟨⟩
      exact ⟨rfl, moved⟩
    · rintro _ ⟨_, ⟨⟩⟩
  · intro positive short
    obtain ⟨error, result⟩ := fails positive short
    rw [result] at yields
    refine yields.imp ?_ fun _ _ => trivial
    rintro _ ⟨⟩

theorem readExactSide_exactly {control : ScanControl} (undisturbed : control.Undisturbed)
    (path : Path) (leftSide : Bool) : ReadsExactly (readExactSide control path leftSide) := by
  intro reader content position wanted stands
  obtain ⟨passes, fails⟩ := readExactCancel_exactly undisturbed wanted stands
  exact ⟨fun inside => (passes inside).mapError,
    fun positive short => (fails positive short).mapError⟩

/-! ## The loop -/

section Loop

variable {ε σ : Type} {control : ScanControl} {readLeft readRight : ExactRead ε}
  {feed : List UInt8 → List UInt8 → σ → σ} {leftContent rightContent : List UInt8}
  {length bufferBytes : Nat}

/-- The files agree so far, both were read as far, and the state was fed what was read. -/
structure Agreeing (leftContent rightContent : List UInt8) (Fed : Nat → σ → Prop)
    (state : Compared σ) (position : Nat) : Prop where
  identical : state.identical = true
  compared : state.bytesCompared = position
  left : state.left.Stands leftContent position
  right : state.right.Stands rightContent position
  leftReaches : position ≤ leftContent.length
  rightReaches : position ≤ rightContent.length
  same : leftContent.take position = rightContent.take position
  fed : Fed position state.fed

/-- The files differ, first behind all that was compared but the last byte. -/
structure Differing (leftContent rightContent : List UInt8) (length : Nat) (state : Compared σ) :
    Prop where
  identical : state.identical = false
  found : ∃ position, firstDifference leftContent rightContent = some position ∧
    position < length ∧ state.bytesCompared = position + 1

/-- A chunk of both files says that they go on alike, or where they differ. -/
theorem compareChunk_step {Fed : Nat → σ → Prop} {state : Compared σ} {position count : Nat}
    (agreeing : Agreeing leftContent rightContent Fed state position)
    (fits : length < MachineInt.u64Bound) (inside : position + count ≤ length)
    (leftInside : position + count ≤ leftContent.length)
    (rightInside : position + count ≤ rightContent.length) {left right : FileReader}
    (leftStands : left.Stands leftContent (position + count))
    (rightStands : right.Stands rightContent (position + count))
    (feeds : ∀ position count fed, Fed position fed →
      Fed (position + count)
        (feed (slice leftContent position count) (slice rightContent position count) fed)) :
    let next := compareChunk feed state (slice leftContent position count)
      (slice rightContent position count) left right
    Agreeing leftContent rightContent Fed next (position + count) ∨
      Differing leftContent rightContent length next := by
  have leftSize := length_slice leftInside
  have rightSize := length_slice rightInside
  have sizes := leftSize.trans rightSize.symm
  have split := firstDifference_drop agreeing.leftReaches agreeing.same
  rw [drop_eq_slice_append leftContent position count,
    drop_eq_slice_append rightContent position count, firstDifference_append sizes] at split
  unfold compareChunk
  cases found : firstDifference (slice leftContent position count)
      (slice rightContent position count) with
  | some first =>
      have early : first < count := leftSize ▸ firstDifference_lt found
      refine .inr ⟨rfl, position + first, ?_, by omega, ?_⟩
      · rw [split, found]
        simp [Nat.add_comm]
      · change MachineInt.saturatingAdd _ state.bytesCompared (first + 1) = _
        rw [agreeing.compared, MachineInt.saturatingAdd, if_pos (by omega)]
        rfl
  | none =>
      have alike := (firstDifference_eq_none sizes).mp found
      refine .inl ⟨rfl, ?_, leftStands, rightStands, leftInside, rightInside, ?_,
        feeds position count _ agreeing.fed⟩
      · change MachineInt.saturatingAdd _ state.bytesCompared _ = _
        rw [agreeing.compared, leftSize, MachineInt.saturatingAdd, if_pos (by omega)]
      · rw [take_add_slice, take_add_slice, agreeing.same, alike]

/-- From files that agree so far, the loop finds that they agree to the end or where they differ;
it stops with an error only where one of them is too short. -/
theorem compareLoop_yields (undisturbed : control.Undisturbed) (cancelled : ε)
    (readsLeft : ReadsExactly readLeft) (readsRight : ReadsExactly readRight)
    (positive : 0 < bufferBytes) (fits : length < MachineInt.u64Bound)
    (feed : List UInt8 → List UInt8 → σ → σ) (Fed : Nat → σ → Prop)
    (feeds : ∀ position count fed, Fed position fed →
      Fed (position + count)
        (feed (slice leftContent position count) (slice rightContent position count) fed))
    (rounds : Nat) (state : Compared σ) (position : Nat)
    (agreeing : Agreeing leftContent rightContent Fed state position) (within : position ≤ length)
    (enough : length ≤ position + rounds) :
    Yields (compareLoop control cancelled readLeft readRight feed length bufferBytes rounds state)
      (fun last => Agreeing leftContent rightContent Fed last length ∨
        Differing leftContent rightContent length last)
      (fun _ => leftContent.length < length ∨ rightContent.length < length) := by
  induction rounds generalizing state position with
  | zero =>
      obtain rfl : position = length := by omega
      exact yields_pure (.inl agreeing)
  | succ rounds ih =>
      unfold compareLoop
      by_cases finished : position = length
      · subst finished
        rw [if_neg (by rw [agreeing.compared]; exact Nat.lt_irrefl _)]
        exact yields_pure (.inl agreeing)
      · rw [if_pos (by rw [agreeing.compared]; omega), agreeing.compared]
        refine (safePoint_yields undisturbed _).bind fun _ _ => ?_
        dsimp only
        generalize counted : min (length - position) bufferBytes = count
        have some : 0 < count := by omega
        obtain ⟨leftPasses, leftFails⟩ := readsLeft count agreeing.left
        obtain ⟨rightPasses, rightFails⟩ := readsRight count agreeing.right
        by_cases leftInside : position + count ≤ leftContent.length
        · refine (leftPasses leftInside).anyError.bind ?_
          rintro ⟨_, left⟩ ⟨rfl, leftStands⟩
          by_cases rightInside : position + count ≤ rightContent.length
          · refine (rightPasses rightInside).anyError.bind ?_
            rintro ⟨_, right⟩ ⟨rfl, rightStands⟩
            dsimp only
            rcases compareChunk_step agreeing fits (by omega : position + count ≤ length)
              leftInside rightInside leftStands rightStands feeds with next | next
            · rw [if_pos next.identical]
              exact ih _ (position + count) next (by omega) (by omega)
            · rw [if_neg (by rw [next.identical]; exact Bool.false_ne_true)]
              exact yields_pure (.inr next)
          · exact ((rightFails some (by omega)).imp (fun _ => False.elim)
              fun _ _ => .inr (by omega)).bind fun _ => False.elim
        · exact ((leftFails some (by omega)).imp (fun _ => False.elim)
            fun _ _ => .inl (by omega)).bind fun _ => False.elim

end Loop

/-! ## Comparisons -/

/-- What a comparison of files whose snapshots declare one length may say. -/
inductive Verdict (leftContent rightContent : List UInt8) (length : Nat) : Bool → Nat → Prop where
  | same (alike : leftContent = rightContent) (whole : leftContent.length = length) :
      Verdict leftContent rightContent length true length
  | differ (position : Nat) (found : firstDifference leftContent rightContent = some position)
      (within : position < length) : Verdict leftContent rightContent length false (position + 1)

/-- Passes exactly where the file has ended. -/
def ProbesEnd (probe : FileReader → Except IoError FileReader) : Prop :=
  ∀ {reader : FileReader} {content : List UInt8} {position : Nat}, reader.Stands content position →
    (content.length ≤ position → ∃ next, probe reader = .ok next) ∧
    (position < content.length → ∃ error, probe reader = .error error)

theorem ensureReaderEof_probes : ProbesEnd ensureReaderEof :=
  fun stands => ensureEofLoop_spec _ _ _ stands (Nat.le_refl _)

theorem ensureEof_probes : ProbesEnd ensureEof :=
  fun stands => ensureEofLoop_spec _ _ _ stands (Nat.le_refl _)

section Comparisons

variable {leftContent rightContent : List UInt8} {length : Nat}

/-- Both files pass exactly when both have ended. -/
theorem ProbesEnd.both {ε : Type} {probe : FileReader → Except IoError FileReader}
    (probes : ProbesEnd probe) {left right : FileReader} (first second : IoError → ε)
    (leftStands : left.Stands leftContent length) (rightStands : right.Stands rightContent length)
    (leftReaches : length ≤ leftContent.length) (rightReaches : length ≤ rightContent.length) :
    Yields (ofExcept (do
        let _ ← (probe left).mapError first
        let _ ← (probe right).mapError second) : Polling ε Unit)
      (fun _ => leftContent.length = length ∧ rightContent.length = length)
      (fun _ => leftContent.length ≠ length ∨ rightContent.length ≠ length) := by
  obtain ⟨leftPasses, leftFails⟩ := probes leftStands
  obtain ⟨rightPasses, rightFails⟩ := probes rightStands
  by_cases leftEnded : leftContent.length = length
  · obtain ⟨_, leftProbed⟩ := leftPasses leftEnded.le
    rw [leftProbed]
    by_cases rightEnded : rightContent.length = length
    · obtain ⟨_, rightProbed⟩ := rightPasses rightEnded.le
      rw [rightProbed]
      exact yields_pure ⟨leftEnded, rightEnded⟩
    · obtain ⟨_, rightProbed⟩ := rightFails (by omega)
      rw [rightProbed]
      exact yields_fail (.inr rightEnded)
  · obtain ⟨_, leftProbed⟩ := leftFails (by omega)
    rw [leftProbed]
    exact yields_fail (.inl leftEnded)

/-- The ends are probed where no difference was found. -/
theorem ProbesEnd.probeEnds {ε σ : Type} {probe : FileReader → Except IoError FileReader}
    (probes : ProbesEnd probe) (first second : IoError → ε) {Fed : Nat → σ → Prop}
    {last : Compared σ}
    (ended : Agreeing leftContent rightContent Fed last length ∨
      Differing leftContent rightContent length last) :
    Yields (Core.probeEnds last.identical (do
        let _ ← (probe last.left).mapError first
        let _ ← (probe last.right).mapError second))
      (fun _ => last.identical = true →
        leftContent.length = length ∧ rightContent.length = length)
      (fun _ => leftContent.length ≠ length ∨ rightContent.length ≠ length) := by
  unfold Core.probeEnds
  rcases ended with agreeing | differing
  · rw [if_pos agreeing.identical]
    exact (probes.both first second agreeing.left agreeing.right agreeing.leftReaches
      agreeing.rightReaches).imp (fun _ ends _ => ends) fun _ longer => longer
  · rw [if_neg (by rw [differing.identical]; exact Bool.false_ne_true)]
    refine yields_pure fun identical => ?_
    rw [differing.identical] at identical
    exact nomatch identical

/-- How a verdict comes about, once the loop and the probes are done. -/
theorem verdict_of_ends {σ : Type} {Fed : Nat → σ → Prop} {last : Compared σ}
    (ended : Agreeing leftContent rightContent Fed last length ∨
      Differing leftContent rightContent length last)
    (probed : last.identical = true →
      leftContent.length = length ∧ rightContent.length = length) :
    Verdict leftContent rightContent length last.identical last.bytesCompared := by
  rcases ended with agreeing | differing
  · have ends := probed agreeing.identical
    have same := agreeing.same
    rw [List.take_of_length_le ends.1.le, List.take_of_length_le ends.2.le] at same
    rw [agreeing.identical, agreeing.compared]
    exact .same same ends.1
  · obtain ⟨position, found, within, compared⟩ := differing.found
    rw [differing.identical, compared]
    exact .differ position found within

/-! ## The batch scanner -/

/-- The file opens with the length its snapshot declares, and none of its reads fails. -/
def ComparisonAccess.Opens (access : ComparisonAccess) (content : List UInt8) (length : Nat) :
    Prop :=
  ∃ reader, access.open_ = .ok ⟨reader, length⟩ ∧ reader.Stands content 0

def ComparisonAccess.Unchanged (access : ComparisonAccess) : Prop :=
  access.unchangedAfterRead = .ok true

theorem ensureUnchanged_yields (access : ComparisonAccess) :
    Yields (ofExcept (ensureUnchanged access) : Polling VerificationError Unit)
      (fun _ => True) (fun _ => ¬ access.Unchanged) := by
  unfold ensureUnchanged ComparisonAccess.Unchanged
  cases access.unchangedAfterRead with
  | error source => exact yields_fail nofun
  | ok unchanged =>
      cases unchanged with
      | true => exact yields_pure trivial
      | false => exact yields_fail nofun

/-- What may keep a comparison of files of one declared length from its verdict. -/
def Disturbed (leftContent rightContent : List UInt8) (length : Nat) (stable : Prop) : Prop :=
  leftContent.length ≠ length ∨ rightContent.length ≠ length ∨ ¬ stable

theorem compareContents_yields {control : ScanControl} (undisturbed : control.Undisturbed)
    {left right : ComparisonAccess} {leftFile rightFile : FileReader}
    (leftStands : leftFile.Stands leftContent 0) (rightStands : rightFile.Stands rightContent 0)
    {bufferBytes : Nat} (positive : 0 < bufferBytes) (fits : length < MachineInt.u64Bound) :
    Yields (compareContents control left right ⟨leftFile, length⟩ ⟨rightFile, length⟩ bufferBytes)
      (fun comparison =>
        Verdict leftContent rightContent length comparison.identical comparison.bytesCompared)
      (fun _ => Disturbed leftContent rightContent length (left.Unchanged ∧ right.Unchanged)) := by
  unfold compareContents
  have loop := compareLoop_yields undisturbed VerificationError.cancelled
    (readVerified_exactly left.path) (readVerified_exactly right.path) positive fits
    (fun _ _ fed => fed) (fun _ _ => True) (fun _ _ _ _ => trivial) length
    ⟨true, 0, leftFile, rightFile, ()⟩ 0
    ⟨rfl, rfl, leftStands, rightStands, Nat.zero_le _, Nat.zero_le _, rfl, trivial⟩
    (Nat.zero_le _) (Nat.zero_add _).ge
  refine (loop.imp (fun _ holds => holds) fun _ short => ?_).bind fun last ended => ?_
  · rcases short with short | short
    · exact .inl short.ne
    · exact .inr (.inl short.ne)
  have probes := ensureReaderEof_probes.probeEnds (VerificationError.read left.path)
    (VerificationError.read right.path) ended
  refine (probes.imp (fun _ holds => holds) fun _ longer => longer.imp id .inl).bind
    fun _ probed => ?_
  refine ((ensureUnchanged_yields left).imp (fun _ holds => holds) fun _ changed =>
    .inr (.inr fun both => changed both.1)).bind fun _ _ => ?_
  refine ((ensureUnchanged_yields right).imp (fun _ holds => holds) fun _ changed =>
    .inr (.inr fun both => changed both.2)).bind fun _ _ => ?_
  exact yields_pure (verdict_of_ends ended probed)

/-- The batch comparison of files of one declared length. -/
theorem compareFilesExactInner_yields {control : ScanControl} (undisturbed : control.Undisturbed)
    {left right : ComparisonAccess} (leftOpens : left.Opens leftContent length)
    (rightOpens : right.Opens rightContent length) (fits : length < MachineInt.u64Bound)
    (bufferBytes : Nat) :
    Yields (compareFilesExactInner control left right bufferBytes)
      (fun comparison =>
        Verdict leftContent rightContent length comparison.identical comparison.bytesCompared)
      (fun _ => Disturbed leftContent rightContent length (left.Unchanged ∧ right.Unchanged)) := by
  obtain ⟨leftFile, leftOpened, leftStands⟩ := leftOpens
  obtain ⟨rightFile, rightOpened, rightStands⟩ := rightOpens
  unfold compareFilesExactInner
  refine (safePoint_yields undisturbed _).bind fun _ _ => ?_
  rw [leftOpened, rightOpened]
  change Yields (if length ≠ length then _ else _) _ _
  rw [if_neg (not_not.mpr rfl)]
  exact compareContents_yields undisturbed leftStands rightStands (by omega) fits

/-- Files of different declared lengths are not compared. -/
theorem compareFilesExactInner_lengths {control : ScanControl} (undisturbed : control.Undisturbed)
    {left right : ComparisonAccess} {rightLength : Nat} (leftOpens : left.Opens leftContent length)
    (rightOpens : right.Opens rightContent rightLength) (differ : length ≠ rightLength)
    (bufferBytes : Nat) :
    Yields (compareFilesExactInner control left right bufferBytes)
      (fun comparison => comparison = ⟨false, 0⟩)
      (fun _ => ¬ (left.Unchanged ∧ right.Unchanged)) := by
  obtain ⟨leftFile, leftOpened, leftStands⟩ := leftOpens
  obtain ⟨rightFile, rightOpened, rightStands⟩ := rightOpens
  unfold compareFilesExactInner
  refine (safePoint_yields undisturbed _).bind fun _ _ => ?_
  rw [leftOpened, rightOpened]
  change Yields (if length ≠ rightLength then _ else _) _ _
  rw [if_pos differ]
  refine ((ensureUnchanged_yields left).imp (fun _ holds => holds) fun _ changed both =>
    changed both.1).bind fun _ _ => ?_
  refine ((ensureUnchanged_yields right).imp (fun _ holds => holds) fun _ changed both =>
    changed both.2).bind fun _ _ => ?_
  exact yields_pure rfl

/-! ## The streaming scanner -/

def OpenedObservation.Opens (opened : OpenedObservation) (content : List UInt8)
    (length : Nat) : Prop :=
  ∃ reader, opened.openStable = .ok ⟨reader, length⟩ ∧ reader.Stands content 0

def OpenedObservation.Unchanged (opened : OpenedObservation) : Prop :=
  ∃ after, opened.signatureAfterRead = .ok (some after)

theorem verifiedAfterSignatureExact_yields (opened : OpenedObservation) (leftSide : Bool) :
    Yields (ofExcept (verifiedAfterSignatureExact opened leftSide) : Polling ExactReadError Bytes32)
      (fun _ => True) (fun _ => ¬ opened.Unchanged) := by
  unfold verifiedAfterSignatureExact OpenedObservation.Unchanged
  cases opened.signatureAfterRead with
  | error source => exact yields_fail nofun
  | ok after =>
      cases after with
      | some after => exact yields_pure trivial
      | none => exact yields_fail nofun

theorem ofExcept_bind {ε α β : Type} (first : Except ε α) (next : α → Except ε β) :
    (ofExcept (first >>= next) : Polling ε β) = ofExcept first >>= fun value =>
      ofExcept (next value) := by
  cases first <;> rfl

theorem exactEvidence_yields (left right : OpenedObservation) (leftFile rightFile : OpenFile)
    (identical : Bool) (bytesCompared : Nat) (found : Option (Bytes32 × Bytes32)) :
    Yields (ofExcept (exactEvidence left right leftFile rightFile identical bytesCompared found) :
        Polling ExactReadError PendingExactEvidence)
      (fun evidence => evidence.identical = identical ∧ evidence.bytesCompared = bytesCompared ∧
        evidence.leftDigest = found.map Prod.fst ∧ evidence.rightDigest = found.map Prod.snd)
      (fun _ => ¬ (left.Unchanged ∧ right.Unchanged)) := by
  unfold exactEvidence
  rw [ofExcept_bind]
  refine ((verifiedAfterSignatureExact_yields left true).imp (fun _ holds => holds)
    fun _ changed both => changed both.1).bind fun _ _ => ?_
  rw [ofExcept_bind]
  refine ((verifiedAfterSignatureExact_yields right false).imp (fun _ holds => holds)
    fun _ changed both => changed both.2).bind fun _ _ => ?_
  exact yields_pure ⟨rfl, rfl, rfl, rfl⟩

/-- The verdict of a streaming comparison, with the digests of what was found to be the same. -/
structure Evidenced (digests : Digests) (leftContent rightContent : List UInt8)
    (length : Nat) (evidence : PendingExactEvidence) : Prop where
  verdict : Verdict leftContent rightContent length evidence.identical evidence.bytesCompared
  digests : evidence.identical = true →
    evidence.leftDigest = some (digests.hash leftContent) ∧
      evidence.rightDigest = some (digests.hash rightContent)

theorem compareOpenedContents_yields (digests : Digests) {control : ScanControl}
    (undisturbed : control.Undisturbed) {left right : OpenedObservation}
    {leftFile rightFile : FileReader} (leftStands : leftFile.Stands leftContent 0)
    (rightStands : rightFile.Stands rightContent 0) {bufferBytes : Nat}
    (positive : 0 < bufferBytes) (fits : length < MachineInt.u64Bound) :
    Yields (compareOpenedContents digests control left right ⟨leftFile, length⟩
        ⟨rightFile, length⟩ bufferBytes)
      (Evidenced digests leftContent rightContent length)
      (fun _ => Disturbed leftContent rightContent length (left.Unchanged ∧ right.Unchanged)) := by
  unfold compareOpenedContents
  -- both hashers were fed what was compared so far
  have loop := compareLoop_yields undisturbed ExactReadError.cancelled
    (readExactSide_exactly undisturbed left.path true)
    (readExactSide_exactly undisturbed right.path false) positive fits
    (fun leftBytes rightBytes (hashers : Hasher × Hasher) =>
      (hashers.1.update leftBytes, hashers.2.update rightBytes))
    (fun position (hashers : Hasher × Hasher) =>
      hashers = (⟨leftContent.take position⟩, ⟨rightContent.take position⟩))
    (fun position count hashers fed => by
      subst fed
      simp only [Hasher.update, take_add_slice])
    length ⟨true, 0, leftFile, rightFile, (.new, .new)⟩ 0
    ⟨rfl, rfl, leftStands, rightStands, Nat.zero_le _, Nat.zero_le _, rfl, rfl⟩
    (Nat.zero_le _) (Nat.zero_add _).ge
  refine (loop.imp (fun _ holds => holds) fun _ short => ?_).bind fun last ended => ?_
  · rcases short with short | short
    · exact .inl short.ne
    · exact .inr (.inl short.ne)
  have probes := ensureEof_probes.probeEnds (ExactReadError.left left.path)
    (ExactReadError.right right.path) ended
  refine (probes.imp (fun _ holds => holds) fun _ longer => longer.imp id .inl).bind
    fun _ probed => ?_
  refine (exactEvidence_yields left right _ _ _ _ _).imp (fun evidence fields => ?_)
    fun _ changed => .inr (.inr changed)
  obtain ⟨identical, compared, leftDigest, rightDigest⟩ := fields
  have verdict := verdict_of_ends ended probed
  rw [← identical, ← compared] at verdict
  refine ⟨verdict, fun same => ?_⟩
  rw [identical] at same
  rw [leftDigest, rightDigest, if_pos same]
  rcases ended with agreeing | differing
  · have ends := probed same
    rw [agreeing.fed, List.take_of_length_le ends.1.le, List.take_of_length_le ends.2.le]
    exact ⟨rfl, rfl⟩
  · rw [differing.identical] at same
    exact nomatch same

/-- The streaming comparison of files of one declared length. -/
theorem compareOpenedFresh_yields (digests : Digests) {control : ScanControl}
    (undisturbed : control.Undisturbed) {left right : OpenedObservation}
    (leftOpens : left.Opens leftContent length) (rightOpens : right.Opens rightContent length)
    (fits : length < MachineInt.u64Bound) (bufferBytes : Nat) :
    Yields (compareOpenedFresh digests control left right bufferBytes)
      (Evidenced digests leftContent rightContent length)
      (fun _ => Disturbed leftContent rightContent length (left.Unchanged ∧ right.Unchanged)) := by
  obtain ⟨leftFile, leftOpened, leftStands⟩ := leftOpens
  obtain ⟨rightFile, rightOpened, rightStands⟩ := rightOpens
  unfold compareOpenedFresh
  rw [leftOpened, rightOpened]
  change Yields (if length ≠ length then _ else _) _ _
  rw [if_neg (not_not.mpr rfl)]
  exact compareOpenedContents_yields digests undisturbed leftStands rightStands (by omega) fits

theorem compareOpenedFresh_lengths (digests : Digests) {control : ScanControl}
    {left right : OpenedObservation} {rightLength : Nat}
    (leftOpens : left.Opens leftContent length)
    (rightOpens : right.Opens rightContent rightLength) (differ : length ≠ rightLength)
    (bufferBytes : Nat) :
    Yields (compareOpenedFresh digests control left right bufferBytes)
      (fun evidence => evidence.identical = false ∧ evidence.bytesCompared = 0)
      (fun _ => ¬ (left.Unchanged ∧ right.Unchanged)) := by
  obtain ⟨leftFile, leftOpened, leftStands⟩ := leftOpens
  obtain ⟨rightFile, rightOpened, rightStands⟩ := rightOpens
  unfold compareOpenedFresh
  rw [leftOpened, rightOpened]
  change Yields (if length ≠ rightLength then _ else _) _ _
  rw [if_pos differ]
  exact (exactEvidence_yields left right _ _ _ _ _).imp (fun _ fields => ⟨fields.1, fields.2.1⟩)
    fun _ changed => changed

end Comparisons

end Guiying.Core
