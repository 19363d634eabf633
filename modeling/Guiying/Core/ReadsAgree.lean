import Guiying.Core.HashRuns

/-!
# The scanners read alike

What the two scanners say of the same files does not depend on how the files answer their reads,
nor on the buffers.
-/

namespace Guiying.Core

open Guiying.Foundation Guiying.Foundation.ByteString Program

/-- A file as both scanners find it: what it holds, and the length its snapshot declares. -/
structure ObservedFile where
  content : List UInt8
  length : Nat
  fits : length < MachineInt.u64Bound
  access : ComparisonAccess
  observation : OpenedObservation
  accessOpens : access.Opens content length
  observationOpens : observation.Opens content length

variable {ε α : Type}

/-- The file holds what its snapshot declares, and is found unchanged after the reads. -/
structure ObservedFile.Stable (file : ObservedFile) : Prop where
  whole : file.content.length = file.length
  access : file.access.Unchanged
  observation : file.observation.Unchanged

/-- How many bytes a comparison looks at. -/
def bytesToCompare (left right : List UInt8) : Nat :=
  if left.length ≠ right.length then 0
  else (firstDifference left right).elim left.length (· + 1)

/-- Every run of the program returns such a value. -/
def Returns (run : Polling ε α) (good : α → Prop) : Prop :=
  ∀ poll, ∃ value, (run poll).1 = .ok value ∧ good value

/-- No run of the program returns such a value. -/
def NeverReturns (run : Polling ε α) (bad : α → Prop) : Prop :=
  ∀ poll value, (run poll).1 = .ok value → ¬ bad value

def Fails (run : Polling ε α) : Prop := ∀ poll, ∃ error, (run poll).1 = .error error

section Runs

variable {run : Polling ε α} {good : α → Prop} {bad : ε → Prop}

theorem returns_of_yields (yields : Yields run good bad) (never : ∀ error, ¬ bad error)
    {known : α → Prop} (tells : ∀ value, good value → known value) : Returns run known :=
  (yields.imp tells never).returns

theorem neverReturns_of_yields (yields : Yields run good bad) {wrong : α → Prop}
    (never : ∀ value, good value → ¬ wrong value) : NeverReturns run wrong := by
  intro poll value returned
  have result := yields poll trivial
  rw [← Prod.mk.eta (p := run poll), returned] at result
  exact never value result

theorem fails_of_yields (yields : Yields run good bad) (never : ∀ value, ¬ good value) :
    Fails run := fun poll =>
  have ⟨error, stopped, _⟩ := (yields.imp never fun _ _ => trivial).stops poll
  ⟨error, stopped⟩

end Runs

/-! ## Verdicts -/

section Verdicts

variable {leftContent rightContent : List UInt8} {length : Nat} {identical : Bool} {bytes : Nat}

/-- A verdict on whole files says whether they are the same, and how far they were compared. -/
theorem Verdict.of_whole (verdict : Verdict leftContent rightContent length identical bytes)
    (leftWhole : leftContent.length = length) (rightWhole : rightContent.length = length) :
    identical = decide (leftContent = rightContent) ∧
      bytes = bytesToCompare leftContent rightContent := by
  unfold bytesToCompare
  rw [if_neg (not_not.mpr (leftWhole.trans rightWhole.symm))]
  cases verdict with
  | same alike whole =>
      subst alike
      rw [(firstDifference_eq_none rfl).mpr rfl]
      exact ⟨(decide_eq_true rfl).symm, whole.symm⟩
  | differ position found within =>
      have differ : leftContent ≠ rightContent := by
        rintro rfl
        rw [(firstDifference_eq_none rfl).mpr rfl] at found
        exact nomatch found
      rw [found]
      exact ⟨(decide_eq_false differ).symm, rfl⟩

/-- A verdict that files are the same is about whole files. -/
theorem Verdict.not_identical (verdict : Verdict leftContent rightContent length identical bytes)
    (wrong : leftContent.length ≠ length ∨ rightContent.length ≠ length) : ¬ identical = true := by
  cases verdict with
  | same alike whole =>
      subst alike
      exact absurd whole (or_self_iff.mp wrong)
  | differ position found within => exact Bool.false_ne_true

/-- There is no verdict on files of which one is too short or too long to find a difference. -/
theorem Verdict.found (verdict : Verdict leftContent rightContent length identical bytes)
    (wrong : leftContent.length ≠ length ∨ rightContent.length ≠ length) :
    ∃ position, firstDifference leftContent rightContent = some position ∧ position < length := by
  cases verdict with
  | same alike whole =>
      subst alike
      exact absurd whole (or_self_iff.mp wrong)
  | differ position found within => exact ⟨position, found, within⟩

end Verdicts

/-! ## Comparisons -/

section Comparisons

variable (digests : Digests) {control : ScanControl} (undisturbed : control.Undisturbed)
  {left right : ObservedFile}

include undisturbed

theorem compareFilesExactInner_stable (leftStable : left.Stable) (rightStable : right.Stable)
    (bufferBytes : Nat) :
    Returns (compareFilesExactInner control left.access right.access bufferBytes)
      fun comparison => comparison = ⟨decide (left.content = right.content),
        bytesToCompare left.content right.content⟩ := by
  have unchanged := And.intro leftStable.access rightStable.access
  by_cases same : left.length = right.length
  · have rightWhole := rightStable.whole.trans same.symm
    refine returns_of_yields (compareFilesExactInner_yields undisturbed left.accessOpens
      (same ▸ right.accessOpens) left.fits bufferBytes) ?_ fun comparison verdict => ?_
    · rintro _ (wrong | wrong | changed)
      · exact wrong leftStable.whole
      · exact wrong rightWhole
      · exact changed unchanged
    · obtain ⟨identical, compared⟩ := verdict.of_whole leftStable.whole rightWhole
      cases comparison
      subst identical compared
      rfl
  · refine returns_of_yields (compareFilesExactInner_lengths undisturbed left.accessOpens
      right.accessOpens same bufferBytes) (fun _ changed => changed unchanged)
      fun comparison result => ?_
    rw [← leftStable.whole, ← rightStable.whole] at same
    have differ : left.content ≠ right.content := fun alike => same (alike ▸ rfl)
    rw [result, bytesToCompare, if_pos same, decide_eq_false differ]

theorem compareOpenedFresh_stable (leftStable : left.Stable) (rightStable : right.Stable)
    (bufferBytes : Nat) :
    Returns (compareOpenedFresh digests control left.observation right.observation bufferBytes)
      fun evidence => evidence.identical = decide (left.content = right.content) ∧
        evidence.bytesCompared = bytesToCompare left.content right.content ∧
        (left.content = right.content → evidence.leftDigest = some (digests.hash left.content) ∧
          evidence.rightDigest = some (digests.hash left.content)) := by
  have unchanged := And.intro leftStable.observation rightStable.observation
  by_cases same : left.length = right.length
  · have rightWhole := rightStable.whole.trans same.symm
    refine returns_of_yields (compareOpenedFresh_yields digests undisturbed left.observationOpens
      (same ▸ right.observationOpens) left.fits bufferBytes) ?_ fun evidence evidenced => ?_
    · rintro _ (wrong | wrong | changed)
      · exact wrong leftStable.whole
      · exact wrong rightWhole
      · exact changed unchanged
    · obtain ⟨identical, compared⟩ := evidenced.verdict.of_whole leftStable.whole rightWhole
      refine ⟨identical, compared, fun alike => ?_⟩
      have digests := evidenced.digests (identical.trans (decide_eq_true alike))
      rwa [← alike] at digests
  · refine returns_of_yields (compareOpenedFresh_lengths digests left.observationOpens
      right.observationOpens same bufferBytes) (fun _ changed => changed unchanged)
      fun evidence result => ?_
    rw [← leftStable.whole, ← rightStable.whole] at same
    have differ : left.content ≠ right.content := fun alike => same (alike ▸ rfl)
    refine ⟨result.1.trans (decide_eq_false differ).symm, ?_, fun alike => absurd alike differ⟩
    rw [result.2, bytesToCompare, if_pos same]

/-- Files that do not hold what their snapshots declare are never found to be the same. -/
theorem compareFilesExactInner_wrong
    (wrong : left.content.length ≠ left.length ∨ right.content.length ≠ right.length)
    (bufferBytes : Nat) :
    NeverReturns (compareFilesExactInner control left.access right.access bufferBytes)
      fun comparison => comparison.identical = true := by
  by_cases same : left.length = right.length
  · exact neverReturns_of_yields (compareFilesExactInner_yields undisturbed left.accessOpens
      (same ▸ right.accessOpens) left.fits bufferBytes)
      fun comparison verdict => verdict.not_identical (same ▸ wrong)
  · refine neverReturns_of_yields (compareFilesExactInner_lengths undisturbed left.accessOpens
      right.accessOpens same bufferBytes) ?_
    rintro _ rfl
    exact Bool.false_ne_true

theorem compareOpenedFresh_wrong
    (wrong : left.content.length ≠ left.length ∨ right.content.length ≠ right.length)
    (bufferBytes : Nat) :
    NeverReturns (compareOpenedFresh digests control left.observation right.observation bufferBytes)
      fun evidence => evidence.identical = true := by
  by_cases same : left.length = right.length
  · exact neverReturns_of_yields (compareOpenedFresh_yields digests undisturbed
      left.observationOpens (same ▸ right.observationOpens) left.fits bufferBytes)
      fun evidence evidenced => evidenced.verdict.not_identical (same ▸ wrong)
  · refine neverReturns_of_yields (compareOpenedFresh_lengths digests left.observationOpens
      right.observationOpens same bufferBytes) fun evidence result => ?_
    rw [result.1]
    exact Bool.false_ne_true

/-- Where no difference comes before the declared length, a comparison of such files fails. -/
theorem compareFilesExactInner_fails (same : left.length = right.length)
    (wrong : left.content.length ≠ left.length ∨ right.content.length ≠ right.length)
    (alike : ∀ position, firstDifference left.content right.content = some position →
      left.length ≤ position)
    (bufferBytes : Nat) :
    Fails (compareFilesExactInner control left.access right.access bufferBytes) := by
  refine fails_of_yields (compareFilesExactInner_yields undisturbed left.accessOpens
    (same ▸ right.accessOpens) left.fits bufferBytes) fun comparison verdict => ?_
  obtain ⟨position, found, within⟩ := verdict.found (same ▸ wrong)
  exact Nat.not_le_of_lt within (alike position found)

theorem compareOpenedFresh_fails (same : left.length = right.length)
    (wrong : left.content.length ≠ left.length ∨ right.content.length ≠ right.length)
    (alike : ∀ position, firstDifference left.content right.content = some position →
      left.length ≤ position)
    (bufferBytes : Nat) :
    Fails (compareOpenedFresh digests control left.observation right.observation bufferBytes) := by
  refine fails_of_yields (compareOpenedFresh_yields digests undisturbed left.observationOpens
    (same ▸ right.observationOpens) left.fits bufferBytes) fun evidence evidenced => ?_
  obtain ⟨position, found, within⟩ := evidenced.verdict.found (same ▸ wrong)
  exact Nat.not_le_of_lt within (alike position found)

end Comparisons

/-! ## Hashes -/

section Hashes

variable (digests : Digests) (hex : Bytes32 → String) {control : ScanControl}
  (undisturbed : control.Undisturbed) {file : ObservedFile} {bufferBytes : Nat}

include undisturbed

theorem hashReaderExact_stable {content : List UInt8} (fits : content.length < MachineInt.u64Bound)
    {reader : FileReader} (stands : reader.Stands content 0) (positive : 1 ≤ bufferBytes) :
    Returns (hashReaderExact control digests hex reader content.length bufferBytes)
      (· = (hex (digests.hash content), content.length)) :=
  returns_of_yields (hashReaderExact_yields digests hex undisturbed stands positive fits)
    (fun _ wrong => wrong rfl) fun _ hashed => hashed.2

theorem fullHash_stable (stable : file.Stable) (positive : 1 ≤ bufferBytes) :
    Returns (fullHash control digests hex file.access bufferBytes)
      (· = (hex (digests.hash file.content), file.content.length)) := by
  refine returns_of_yields (fullHash_yields digests hex undisturbed file.accessOpens positive
    file.fits) ?_ fun result hashed => ?_
  · rintro _ (wrong | changed)
    · exact wrong stable.whole
    · exact changed stable.access
  · rw [stable.whole]
    exact hashed.2

theorem readFullFresh_stable (stable : file.Stable) (positive : 1 ≤ bufferBytes) :
    Returns (readFullFresh digests control file.observation bufferBytes) fun fingerprint =>
      fingerprint.digest = digests.hash file.content ∧
        fingerprint.bytesRead = file.content.length := by
  refine returns_of_yields (readFullFresh_yields digests undisturbed file.observationOpens positive
    file.fits) ?_ fun fingerprint hashed => ?_
  · rintro _ (wrong | changed)
    · exact wrong stable.whole
    · exact changed stable.observation
  · obtain ⟨_, hash, read, _⟩ := hashed
    exact ⟨hash, read.trans stable.whole.symm⟩

/-- Both samples of a file are hashes of its windows. -/
theorem samples_stable (stable : file.Stable) (width : PointerWidth) {sampleBytes : Nat}
    (sampleFits : sampleBytes < width.usizeBound) (positive : 1 ≤ sampleBytes) :
    ∃ chunk offsets, sampleLayout width file.content.length sampleBytes = some (chunk, offsets) ∧
      let sampled := sampledWindows file.content sampleBytes chunk offsets
      Returns (sampleFingerprint control digests hex width file.access sampleBytes)
        (· = some (hex (sampled.2.finalize digests), sampled.1)) ∧
      Returns (readSampleFresh digests control width file.observation sampleBytes)
        fun result => ∃ fingerprint, result = some fingerprint ∧
          fingerprint.digest = sampled.2.finalize digests ∧ fingerprint.bytesRead = sampled.1 := by
  obtain ⟨chunk, offsets, layout, samples⟩ :=
    sampleLayout_samples width file.content.length sampleFits positive
  have accessOpens := file.accessOpens
  have observationOpens := file.observationOpens
  rw [← stable.whole] at accessOpens observationOpens
  refine ⟨chunk, offsets, layout, ?_, ?_⟩
  · exact returns_of_yields (sampleFingerprint_yields digests hex undisturbed accessOpens layout
      samples.within) (fun _ changed => changed stable.access) fun _ result => result
  · exact returns_of_yields (readSampleFresh_yields digests undisturbed observationOpens layout
      samples.within) (fun _ changed => changed stable.observation) fun _ result => result

end Hashes

/-! ## Both scanners -/

/-- Of stable files both scanners say the same, however the files answer and whatever the buffers;
of files that do not hold what their snapshots declare neither says that they are identical. -/
theorem scanners_read_alike (digests : Digests) (hex : Bytes32 → String) {control : ScanControl}
    (undisturbed : control.Undisturbed) (left right : ObservedFile) :
    (left.Stable → right.Stable → ∀ batchBuffer streamBuffer,
      Returns (compareFilesExactInner control left.access right.access batchBuffer)
        (fun comparison => comparison = ⟨decide (left.content = right.content),
          bytesToCompare left.content right.content⟩) ∧
      Returns (compareOpenedFresh digests control left.observation right.observation streamBuffer)
        (fun evidence => evidence.identical = decide (left.content = right.content) ∧
          evidence.bytesCompared = bytesToCompare left.content right.content ∧
          (left.content = right.content → evidence.leftDigest = some (digests.hash left.content) ∧
            evidence.rightDigest = some (digests.hash left.content)))) ∧
    (left.content.length ≠ left.length ∨ right.content.length ≠ right.length →
      ∀ batchBuffer streamBuffer,
      NeverReturns (compareFilesExactInner control left.access right.access batchBuffer)
        (fun comparison => comparison.identical = true) ∧
      NeverReturns
        (compareOpenedFresh digests control left.observation right.observation streamBuffer)
        (fun evidence => evidence.identical = true) ∧
      (left.length = right.length →
        (∀ position, firstDifference left.content right.content = some position →
          left.length ≤ position) →
        Fails (compareFilesExactInner control left.access right.access batchBuffer) ∧
        Fails (compareOpenedFresh digests control left.observation right.observation
          streamBuffer))) ∧
    (left.Stable → ∀ batchBuffer streamBuffer, 1 ≤ batchBuffer → 1 ≤ streamBuffer →
      (∀ reader : FileReader, reader.Stands left.content 0 →
        Returns (hashReaderExact control digests hex reader left.content.length batchBuffer)
          (· = (hex (digests.hash left.content), left.content.length))) ∧
      Returns (fullHash control digests hex left.access batchBuffer)
        (· = (hex (digests.hash left.content), left.content.length)) ∧
      Returns (readFullFresh digests control left.observation streamBuffer)
        (fun fingerprint => fingerprint.digest = digests.hash left.content ∧
          fingerprint.bytesRead = left.content.length)) ∧
    (left.Stable → ∀ (width : PointerWidth) (sampleBytes : Nat),
      sampleBytes < width.usizeBound → 1 ≤ sampleBytes →
      ∃ chunk offsets,
        sampleLayout width left.content.length sampleBytes = some (chunk, offsets) ∧
        let sampled := sampledWindows left.content sampleBytes chunk offsets
        Returns (sampleFingerprint control digests hex width left.access sampleBytes)
          (· = some (hex (sampled.2.finalize digests), sampled.1)) ∧
        Returns (readSampleFresh digests control width left.observation sampleBytes)
          (fun result => ∃ fingerprint, result = some fingerprint ∧
            fingerprint.digest = sampled.2.finalize digests ∧
            fingerprint.bytesRead = sampled.1)) := by
  refine ⟨?_, ?_, ?_, ?_⟩
  · intro leftStable rightStable batchBuffer streamBuffer
    exact ⟨compareFilesExactInner_stable undisturbed leftStable rightStable batchBuffer,
      compareOpenedFresh_stable digests undisturbed leftStable rightStable streamBuffer⟩
  · intro wrong batchBuffer streamBuffer
    refine ⟨compareFilesExactInner_wrong undisturbed wrong batchBuffer,
      compareOpenedFresh_wrong digests undisturbed wrong streamBuffer, fun same alike => ?_⟩
    exact ⟨compareFilesExactInner_fails undisturbed same wrong alike batchBuffer,
      compareOpenedFresh_fails digests undisturbed same wrong alike streamBuffer⟩
  · intro stable batchBuffer streamBuffer batchPositive streamPositive
    refine ⟨fun reader stands => ?_, fullHash_stable digests hex undisturbed stable batchPositive,
      readFullFresh_stable digests undisturbed stable streamPositive⟩
    exact hashReaderExact_stable digests hex undisturbed (stable.whole ▸ left.fits) stands
      batchPositive
  · intro stable width sampleBytes sampleFits positive
    exact samples_stable digests hex undisturbed stable width sampleFits positive

/-- A file of three bytes behind a snapshot that declares so many, whose first read is interrupted
twice and whose reads return one byte. -/
def halting (length : Nat) (fits : length < MachineInt.u64Bound) : ObservedFile :=
  let reader : FileReader := ⟨[1, 2, 3], 0, fun _ => ⟨2, none, 1⟩, 0, 2⟩
  { content := [1, 2, 3]
    length
    fits
    access := ⟨[], .ok ⟨reader, length⟩, .ok true⟩
    observation := ⟨[], .filled 0, .ok ⟨reader, length⟩, .ok (some (.filled 0))⟩
    accessOpens := ⟨reader, rfl, rfl, rfl, fun _ => rfl⟩
    observationOpens := ⟨reader, rfl, rfl, rfl, fun _ => rfl⟩ }

theorem scanners_read_alike_halting :
    let control : ScanControl := ⟨fun _ => false, fun _ => .continue_⟩
    let digests : Digests := ⟨fun _ => .filled 0, fun _ _ => .filled 0⟩
    let file := halting 3 (by decide)
    let grown := halting 2 (by decide)
    Returns (compareFilesExactInner control file.access file.access 2) (· = ⟨true, 3⟩) ∧
      Fails (compareFilesExactInner control grown.access grown.access 2) ∧
      Returns (fullHash control digests (fun _ => "00") file.access 2) (· = ("00", 3)) := by
  intro control digests file grown
  have undisturbed : control.Undisturbed := fun _ => nofun
  have stable : file.Stable := ⟨rfl, rfl, ⟨.filled 0, rfl⟩⟩
  have whole := scanners_read_alike digests (fun _ => "00") undisturbed file file
  have longer := scanners_read_alike digests (fun _ => "00") undisturbed grown grown
  refine ⟨(whole.1 stable stable 2 2).1, ?_, (whole.2.2.1 stable 2 2 (by decide) (by decide)).2.1⟩
  exact ((longer.2.1 (.inl (by decide)) 2 2).2.2 rfl nofun).1

end Guiying.Core
