import Guiying.Core.CompareRuns
import Guiying.Core.HashReads

/-!
# What a hash is fed

However a file answers its reads, a full hash is fed its content once, and a sampled hash what
stands in its windows.
-/

namespace Guiying.Core

open Guiying.Foundation Guiying.Foundation.ByteString Program

/-- As far as it was read, the file was fed to the hasher once. -/
structure Absorbed (content : List UInt8) (state : Hashing) (position : Nat) : Prop where
  stands : state.reader.Stands content position
  read : state.bytesRead = position
  fed : state.hasher = ⟨content.take position⟩
  reaches : position ≤ content.length

section Full

variable {content : List UInt8} {position expectedLength bufferBytes : Nat} {state : Hashing}

theorem absorbed_start {reader : FileReader} (stands : reader.Stands content 0) :
    Absorbed content ⟨reader, 0, .new⟩ 0 :=
  ⟨stands, rfl, rfl, Nat.zero_le _⟩

theorem Absorbed.absorb (absorbed : Absorbed content state position) {count : Nat}
    {next : FileReader} (inside : position + count ≤ content.length)
    (fits : position + count < MachineInt.u64Bound)
    (stands : next.Stands content (position + count)) :
    Absorbed content (state.absorb (slice content position count) next) (position + count) := by
  have size : (slice content position count).length = count := length_slice inside
  refine ⟨stands, ?_, ?_, inside⟩
  · change MachineInt.saturatingAdd _ state.bytesRead _ = _
    rw [absorbed.read, size, MachineInt.saturatingAdd, if_pos (by omega)]
  · change state.hasher.update _ = _
    rw [absorbed.fed, take_add_slice]
    rfl

/-! ## The batch scanner -/

theorem hashReaderLoop_yields {control : ScanControl} (undisturbed : control.Undisturbed)
    (positive : 0 < bufferBytes) (fits : expectedLength < MachineInt.u64Bound) (rounds : Nat)
    (state : Hashing) (position : Nat) (absorbed : Absorbed content state position)
    (within : position ≤ expectedLength)
    (enough : state.reader.rounds (expectedLength - position) ≤ rounds) :
    Yields (hashReaderLoop control expectedLength bufferBytes rounds state)
      (fun last => Absorbed content last expectedLength)
      (fun _ => content.length < expectedLength) := by
  induction rounds generalizing state position with
  | zero =>
      have none := FileReader.rounds_le_zero enough
      obtain rfl : position = expectedLength := by omega
      exact yields_pure absorbed
  | succ rounds ih =>
      unfold hashReaderLoop
      by_cases finished : position = expectedLength
      · subst finished
        rw [if_neg (by rw [absorbed.read]; exact Nat.lt_irrefl _)]
        exact yields_pure absorbed
      · rw [if_pos (by rw [absorbed.read]; omega)]
        refine (safePoint_yields undisturbed _).bind fun _ _ => ?_
        obtain ⟨left, remaining⟩ : ∃ left, expectedLength - position = left + 1 :=
          ⟨expectedLength - position - 1, by omega⟩
        rw [show expectedLength - state.bytesRead = left + 1 by rw [absorbed.read, remaining]]
        have read := FileReader.read_cases absorbed.stands
          (by omega : 0 < min (left + 1) bufferBytes)
        rw [remaining] at enough
        generalize state.reader.read (min (left + 1) bufferBytes) = result at read ⊢
        cases read with
        | interrupted error next kind stands fewer =>
            have less := fewer left
            dsimp only
            rw [if_pos kind]
            refine ih { state with reader := next } position
              ⟨stands, absorbed.read, absorbed.fed, absorbed.reaches⟩ within ?_
            change next.rounds (expectedLength - position) ≤ rounds
            rw [remaining]
            omega
        | ended next past _ => exact yields_fail (by omega)
        | some next count positive fitting inside stands fewer =>
            have less := fewer left
            have fewerLeft : next.rounds (expectedLength - (position + count)) ≤ next.rounds left :=
              next.rounds_mono (by omega)
            have step := absorbed.absorb inside (by omega) stands
            have size : (slice content position count).length = count := length_slice inside
            generalize slice content position count = bytes at size step ⊢
            cases bytes with
            | nil => exact absurd size.symm positive.ne'
            | cons first others =>
                exact ih _ (position + count) step (by omega) (fewerLeft.trans (by omega))

theorem hashReaderProbe_yields {control : ScanControl} (undisturbed : control.Undisturbed)
    (rounds : Nat) (reader : FileReader) (stands : reader.Stands content position)
    (enough : reader.rounds 1 ≤ rounds) :
    Yields (hashReaderProbe control expectedLength rounds reader)
      (fun _ => content.length ≤ position) (fun _ => position < content.length) := by
  induction rounds generalizing reader with
  | zero => exact absurd (FileReader.rounds_le_zero enough) Nat.one_ne_zero
  | succ rounds ih =>
      unfold hashReaderProbe
      refine (safePoint_yields undisturbed _).bind fun _ _ => ?_
      have read := FileReader.read_cases stands Nat.one_pos
      generalize reader.read 1 = result at read ⊢
      cases read with
      | interrupted error next kind stands fewer =>
          have less : next.rounds 1 + 1 = reader.rounds 1 := fewer 0
          dsimp only
          rw [if_pos kind]
          exact ih next stands (by omega)
      | ended next past _ => exact yields_pure past
      | some next count positive fitting inside stands _ =>
          have size : (slice content position count).length = count := length_slice inside
          generalize slice content position count = bytes at size ⊢
          cases bytes with
          | nil => exact absurd size.symm positive.ne'
          | cons first others => exact yields_fail (by omega)

/-- The hash of a reader returns exactly when the reader has the declared length. -/
theorem hashReaderExact_yields (digests : Digests) (hex : Bytes32 → String)
    {control : ScanControl} (undisturbed : control.Undisturbed) {reader : FileReader}
    (stands : reader.Stands content 0) (positive : 0 < bufferBytes)
    (fits : expectedLength < MachineInt.u64Bound) :
    Yields (hashReaderExact control digests hex reader expectedLength bufferBytes)
      (fun result => content.length = expectedLength ∧
        result = (hex (digests.hash content), expectedLength))
      (fun _ => content.length ≠ expectedLength) := by
  unfold hashReaderExact
  refine ((hashReaderLoop_yields undisturbed positive fits _ _ 0 (absorbed_start stands)
    (Nat.zero_le _) (Nat.le_refl _)).imp (fun _ holds => holds) fun _ short => short.ne).bind
    fun last absorbed => ?_
  refine ((hashReaderProbe_yields undisturbed _ _ absorbed.stands (Nat.le_refl _)).imp
    (fun _ holds => holds) fun _ longer => longer.ne').bind fun _ ended => ?_
  have whole : content.length = expectedLength := Nat.le_antisymm ended absorbed.reaches
  refine yields_pure ⟨whole, ?_⟩
  rw [absorbed.fed, absorbed.read, List.take_of_length_le ended]
  rfl

theorem verifyUnchanged_yields (binding : ComparisonAccess) :
    Yields (ofExcept (verifyUnchanged binding) : Polling ReadHashError Unit)
      (fun _ => True) (fun _ => ¬ binding.Unchanged) := by
  unfold verifyUnchanged ComparisonAccess.Unchanged
  cases binding.unchangedAfterRead with
  | error source => exact yields_fail nofun
  | ok unchanged =>
      cases unchanged with
      | true => exact yields_pure trivial
      | false => exact yields_fail nofun

theorem fullHash_yields (digests : Digests) (hex : Bytes32 → String)
    {control : ScanControl} (undisturbed : control.Undisturbed) {binding : ComparisonAccess}
    {length : Nat} (opens : binding.Opens content length) (positive : 0 < bufferBytes)
    (fits : length < MachineInt.u64Bound) :
    Yields (fullHash control digests hex binding bufferBytes)
      (fun result => content.length = length ∧ result = (hex (digests.hash content), length))
      (fun _ => content.length ≠ length ∨ ¬ binding.Unchanged) := by
  obtain ⟨reader, opened, stands⟩ := opens
  unfold fullHash
  rw [opened]
  change Yields (ofExcept (.ok (OpenFile.mk reader length)) >>= _) _ _
  rw [ofExcept_ok_bind]
  refine ((hashReaderExact_yields digests hex undisturbed (stands.seek 0) positive fits).imp
    (fun _ holds => holds) fun _ wrong => .inl wrong).mapError.bind fun result hashed => ?_
  refine ((verifyUnchanged_yields binding).imp (fun _ holds => holds)
    fun _ changed => .inr changed).bind fun _ _ => ?_
  exact yields_pure hashed

/-! ## The streaming scanner -/

theorem readFullFreshLoop_yields {control : ScanControl} (undisturbed : control.Undisturbed)
    (positive : 0 < bufferBytes) (fits : expectedLength < MachineInt.u64Bound) (rounds : Nat)
    (state : Hashing) (position : Nat) (absorbed : Absorbed content state position)
    (within : position ≤ expectedLength) (enough : expectedLength ≤ position + rounds) :
    Yields (readFullFreshLoop control expectedLength bufferBytes rounds state)
      (fun last => Absorbed content last expectedLength)
      (fun _ => content.length < expectedLength) := by
  induction rounds generalizing state position with
  | zero =>
      obtain rfl : position = expectedLength := by omega
      exact yields_pure absorbed
  | succ rounds ih =>
      unfold readFullFreshLoop
      by_cases finished : position = expectedLength
      · subst finished
        rw [if_neg (by rw [absorbed.read]; exact Nat.lt_irrefl _)]
        exact yields_pure absorbed
      · rw [if_pos (by rw [absorbed.read]; omega)]
        refine (safePoint_yields undisturbed _).bind fun _ _ => ?_
        rw [absorbed.read]
        have read := readRetry_cases absorbed.stands
          (by omega : 0 < min (expectedLength - position) bufferBytes)
        generalize readRetry state.reader (min (expectedLength - position) bufferBytes) = result
          at read ⊢
        cases read with
        | ended next past => exact yields_fail (by omega)
        | some next count positive fitting inside stands =>
            have step := absorbed.absorb inside (by omega) stands
            have size : (slice content position count).length = count := length_slice inside
            generalize slice content position count = bytes at size step ⊢
            cases bytes with
            | nil => exact absurd size.symm positive.ne'
            | cons first others => exact ih _ (position + count) step (by omega) (by omega)

theorem verifiedAfterSignature_yields (opened : OpenedObservation) :
    Yields (ofExcept (verifiedAfterSignature opened) : Polling FreshReadError Bytes32)
      (fun _ => True) (fun _ => ¬ opened.Unchanged) := by
  unfold verifiedAfterSignature OpenedObservation.Unchanged
  cases opened.signatureAfterRead with
  | error source => exact yields_fail nofun
  | ok after =>
      cases after with
      | some after => exact yields_pure trivial
      | none => exact yields_fail nofun

theorem readFullFresh_yields (digests : Digests) {control : ScanControl}
    (undisturbed : control.Undisturbed) {opened : OpenedObservation} {length : Nat}
    (opens : opened.Opens content length) (positive : 0 < bufferBytes)
    (fits : length < MachineInt.u64Bound) :
    Yields (readFullFresh digests control opened bufferBytes)
      (fun fingerprint => content.length = length ∧ fingerprint.digest = digests.hash content ∧
        fingerprint.bytesRead = length ∧ fingerprint.eofVerified = true)
      (fun _ => content.length ≠ length ∨ ¬ opened.Unchanged) := by
  obtain ⟨reader, openedFile, stands⟩ := opens
  unfold readFullFresh
  rw [openedFile]
  change Yields (ofExcept (.ok (OpenFile.mk reader length)) >>= _) _ _
  rw [ofExcept_ok_bind]
  refine ((readFullFreshLoop_yields undisturbed positive fits length _ 0
    (absorbed_start (stands.seek 0)) (Nat.zero_le _) (Nat.zero_add _).ge).imp
    (fun _ holds => holds) fun _ short => .inl short.ne).bind fun last absorbed => ?_
  obtain ⟨passes, fails⟩ := ensureEof_probes absorbed.stands
  by_cases ended : content.length ≤ length
  · have whole : content.length = length := Nat.le_antisymm ended absorbed.reaches
    obtain ⟨next, probed⟩ := passes ended
    rw [probed]
    change Yields (ofExcept (.ok next) >>= _) _ _
    rw [ofExcept_ok_bind]
    refine ((verifiedAfterSignature_yields opened).imp (fun _ holds => holds)
      fun _ changed => .inr changed).bind fun after _ => ?_
    refine yields_pure ⟨whole, ?_, absorbed.read, rfl⟩
    rw [absorbed.fed, List.take_of_length_le ended]
    rfl
  · obtain ⟨error, probed⟩ := fails (Nat.lt_of_not_le ended)
    rw [probed]
    exact (yields_fail (.inl (by omega)) : Yields _ (fun _ => False) _).bind fun _ => False.elim

end Full

/-! ## Samples -/

/-- What a window adds to the count and to the hasher. -/
def sampledWindow (content : List UInt8) (chunk : Nat) (sampled : Nat × Hasher) (offset : Nat) :
    Nat × Hasher :=
  (MachineInt.saturatingAdd MachineInt.u64Bound sampled.1 chunk,
    (windowHeader sampled.2 chunk offset).update (slice content offset chunk))

/-- What is read of a file in windows, and what its hasher is fed. -/
def sampledWindows (content : List UInt8) (sampleBytes chunk : Nat) (offsets : List Nat) :
    Nat × Hasher :=
  offsets.foldl (sampledWindow content chunk)
    (0, sampleHeader "guiying-sample-v2\x00" content.length sampleBytes)

section Samples

variable {content : List UInt8} {chunk : Nat}

theorem absorbWindow_sampled (state : Hashing) (next : FileReader) {offset : Nat}
    (inside : offset + chunk ≤ content.length) :
    let read := Hashing.absorb { state with hasher := windowHeader state.hasher chunk offset }
      (slice content offset chunk) next
    (read.bytesRead, read.hasher) =
      sampledWindow content chunk (state.bytesRead, state.hasher) offset := by
  dsimp only [Hashing.absorb, sampledWindow]
  rw [length_slice inside]

theorem sampleFingerprintLoop_yields {control : ScanControl} (undisturbed : control.Undisturbed)
    (binding : ComparisonAccess) (offsets : List Nat)
    (within : Windows.Within chunk content.length offsets) (state : Hashing) (position : Nat)
    (stands : state.reader.Stands content position) :
    Yields (sampleFingerprintLoop control binding chunk offsets state)
      (fun last => (last.bytesRead, last.hasher) =
        offsets.foldl (sampledWindow content chunk) (state.bytesRead, state.hasher))
      (fun _ => False) := by
  induction offsets generalizing state position with
  | nil => exact yields_pure rfl
  | cons offset offsets ih =>
      have inside := within offset List.mem_cons_self
      obtain ⟨next, read, moved⟩ := readExact_ok (stands.seek offset) inside
      unfold sampleFingerprintLoop
      refine (safePoint_yields undisturbed _).bind fun _ _ => ?_
      rw [read]
      change Yields (ofExcept (.ok (slice content offset chunk, next)) >>= _) _ _
      rw [ofExcept_ok_bind, List.foldl_cons, ← absorbWindow_sampled state next inside]
      exact ih (fun later listed => within later (List.mem_cons_of_mem _ listed)) _ _ moved

theorem readSampleFreshLoop_yields {control : ScanControl} (undisturbed : control.Undisturbed)
    (offsets : List Nat) (within : Windows.Within chunk content.length offsets) (state : Hashing)
    (parameters : Hasher) (position : Nat) (stands : state.reader.Stands content position) :
    Yields (readSampleFreshLoop control chunk offsets (state, parameters))
      (fun last => (last.1.bytesRead, last.1.hasher) =
        offsets.foldl (sampledWindow content chunk) (state.bytesRead, state.hasher))
      (fun _ => False) := by
  induction offsets generalizing state parameters position with
  | nil => exact yields_pure rfl
  | cons offset offsets ih =>
      have inside := within offset List.mem_cons_self
      unfold readSampleFreshLoop
      refine (safePoint_yields undisturbed _).bind fun _ _ => ?_
      have read := (readExactCancel_exactly undisturbed chunk (stands.seek offset)).1 inside
      refine read.anyError.mapError.bind ?_
      rintro ⟨_, next⟩ ⟨rfl, moved⟩
      rw [List.foldl_cons, ← absorbWindow_sampled state next inside]
      exact ih (fun later listed => within later (List.mem_cons_of_mem _ listed)) _ _ _ moved

/-- A sample of a stable file hashes its windows. -/
theorem sampleFingerprint_yields (digests : Digests) (hex : Bytes32 → String)
    {control : ScanControl} (undisturbed : control.Undisturbed) {width : PointerWidth}
    {binding : ComparisonAccess} (opens : binding.Opens content content.length)
    {sampleBytes : Nat} {offsets : List Nat}
    (layout : sampleLayout width content.length sampleBytes = some (chunk, offsets))
    (within : Windows.Within chunk content.length offsets) :
    Yields (sampleFingerprint control digests hex width binding sampleBytes)
      (fun result =>
        let sampled := sampledWindows content sampleBytes chunk offsets
        result = some (hex (sampled.2.finalize digests), sampled.1))
      (fun _ => ¬ binding.Unchanged) := by
  obtain ⟨reader, opened, stands⟩ := opens
  unfold sampleFingerprint
  rw [opened]
  change Yields (ofExcept (.ok (OpenFile.mk reader content.length)) >>= _) _ _
  rw [ofExcept_ok_bind, layout]
  refine (sampleFingerprintLoop_yields undisturbed binding offsets within _ 0 stands).anyError.bind
    fun last sampled => ?_
  refine (verifyUnchanged_yields binding).bind fun _ _ => ?_
  refine yields_pure ?_
  obtain ⟨read, fed⟩ := Prod.mk.inj sampled
  rw [read, fed]
  rfl

theorem readSampleFresh_yields (digests : Digests) {control : ScanControl}
    (undisturbed : control.Undisturbed) {width : PointerWidth} {opened : OpenedObservation}
    (opens : opened.Opens content content.length) {sampleBytes : Nat} {offsets : List Nat}
    (layout : sampleLayout width content.length sampleBytes = some (chunk, offsets))
    (within : Windows.Within chunk content.length offsets) :
    Yields (readSampleFresh digests control width opened sampleBytes)
      (fun result =>
        let sampled := sampledWindows content sampleBytes chunk offsets
        ∃ fingerprint, result = some fingerprint ∧
          fingerprint.digest = sampled.2.finalize digests ∧ fingerprint.bytesRead = sampled.1)
      (fun _ => ¬ opened.Unchanged) := by
  obtain ⟨reader, openedFile, stands⟩ := opens
  unfold readSampleFresh
  rw [openedFile]
  change Yields (ofExcept (.ok (OpenFile.mk reader content.length)) >>= _) _ _
  rw [ofExcept_ok_bind, layout]
  refine (readSampleFreshLoop_yields undisturbed offsets within _ _ 0 stands).anyError.bind ?_
  rintro ⟨last, parameters⟩ sampled
  refine (verifiedAfterSignature_yields opened).bind fun after _ => ?_
  obtain ⟨read, fed⟩ := Prod.mk.inj sampled
  refine yields_pure ⟨_, rfl, ?_, read⟩
  rw [fed]
  rfl

end Samples

end Guiying.Core
