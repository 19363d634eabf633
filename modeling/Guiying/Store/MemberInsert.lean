import Guiying.Foundation.Outcome
import Guiying.Foundation.SqlNumber
import Guiying.Store.MemberTimes

/-!
# The insert of a member assessment

The writer checks an input against its own expectation and then inserts the row.
A trigger compares the times a third time, in the arithmetic of the database.
-/

namespace Guiying.Store

open Guiying.Foundation Guiying.Foundation.MachineInt

structure AnalysisBuildRow where
  id : Int
  state : String
  scanRunId : Int
  volumeId : Int
  exactGroupBuildId : Int
  expectedMemberCount : Int
  createdAtMs : Int
  deriving DecidableEq, Repr

structure SnapshotRow extends StoredMemberObservation where
  id : Int
  scanRunId : Int
  volumeId : Int
  deriving DecidableEq, Repr

/-- A candidate of the analysis; a candidate of kind `utc` has an instant. -/
structure CandidateRow extends StoredMemberCandidate where
  evidenceGate : String
  semanticKind : String
  deriving DecidableEq, Repr

structure NewMemberAssessment where
  analysisBuildId : Int
  memberOrdinal : Int
  volumeId : Int
  scanRunId : Int
  exactGroupBuildId : Int
  mediaObservationSnapshotId : Int
  candidateId : Option Int
  birthTimeRelation : String
  modifiedTimeRelation : String
  donorEligibility : String
  reasonCode : String
  createdAtMs : Int
  deriving DecidableEq, Repr

/-! ## The comparison of the trigger -/

/-- The seconds, then the nanoseconds, against the tolerance; `none` when `abs` fails. A time
without nanoseconds makes the condition `NULL`. -/
def sqlWithinTolerance (candidateSeconds candidateNanoseconds seconds : Int)
    (nanoseconds : Option Int) (toleranceNs : Int) : Option Bool :=
  let apart := (SqlNumber.integer candidateSeconds).sub (.integer seconds)
  apart.abs.bind fun secondsApart =>
    if secondsApart.value > toleranceNs / 1000000000 + 1 then some false
    else
      match nanoseconds with
      | none => some false
      | some nanoseconds =>
          (((apart.mul (.integer 1000000000)).add (.integer candidateNanoseconds)).sub
            (.integer nanoseconds)).abs.map fun distance => distance.value ≤ toleranceNs

def relationText (within : Bool) : String := if within then "matches" else "differs"

/-- The relation of a time that is not `NULL`. -/
def guardRelation (candidate : CandidateRow) (granularityNs seconds : Int)
    (nanoseconds : Option Int) : Option String :=
  (sqlWithinTolerance (castInteger candidate.utcSecondsDecimal) candidate.utcNanoseconds seconds
    nanoseconds (max granularityNs candidate.precisionNs)).map relationText

def guardBirthRelation (candidate : CandidateRow) (snapshot : SnapshotRow)
    (granularityNs : Int) : Option String :=
  match snapshot.birthTimeSeconds with
  | none => some "unavailable"
  | some seconds => guardRelation candidate granularityNs seconds snapshot.birthTimeNanoseconds

/-- The relations and the reason of a row with a candidate. A failing `abs` aborts the insert, as
a false condition does. -/
def guardComparison (candidate : CandidateRow) (snapshot : SnapshotRow)
    (new : NewMemberAssessment) : Bool :=
  match snapshot.timestampGranularityNs with
  | none =>
      new.birthTimeRelation == (if snapshot.birthTimeSeconds.isNone then "unavailable"
        else "review_fs_precision_unknown") &&
      new.modifiedTimeRelation == "review_fs_precision_unknown" &&
      new.reasonCode == "fs_precision_unknown"
  | some granularityNs =>
      decide (new.birthTimeRelation ∈ ["unavailable", "matches", "differs"]) &&
      decide (new.modifiedTimeRelation ∈ ["matches", "differs"]) &&
      some new.modifiedTimeRelation == guardRelation candidate granularityNs
        snapshot.modifiedTimeSeconds (some snapshot.modifiedTimeNanoseconds) &&
      some new.birthTimeRelation == guardBirthRelation candidate snapshot granularityNs &&
      new.reasonCode ==
        (if new.birthTimeRelation == "matches" || new.modifiedTimeRelation == "matches" then
          "embedded_time_matches_fs"
        else "embedded_time_differs_fs")

/-- The joins: a draft of the run of the row, with room for it, and the snapshot it names. -/
def rowsBelong (build : AnalysisBuildRow) (snapshot : SnapshotRow)
    (new : NewMemberAssessment) : Bool :=
  snapshot.id == new.mediaObservationSnapshotId &&
  snapshot.scanRunId == new.scanRunId &&
  snapshot.volumeId == new.volumeId &&
  build.id == new.analysisBuildId &&
  build.state == "draft" &&
  build.scanRunId == new.scanRunId &&
  build.volumeId == new.volumeId &&
  build.exactGroupBuildId == new.exactGroupBuildId &&
  decide (new.memberOrdinal < build.expectedMemberCount) &&
  decide (new.createdAtMs ≥ build.createdAtMs)

/-- The relations and the reason of a row, with the candidate that the outer join finds. -/
def relationsBelong (snapshot : SnapshotRow) (candidate : Option CandidateRow)
    (new : NewMemberAssessment) : Bool :=
  match new.candidateId with
  | none =>
      decide (new.birthTimeRelation ∈ ["unavailable", "not_compared"]) &&
      new.modifiedTimeRelation == "not_compared" &&
      new.reasonCode == "no_strong_embedded_candidate"
  | some id =>
      candidate.any fun candidate =>
        candidate.id == id && candidate.evidenceGate == "eligible" &&
        candidate.semanticKind == "utc" && guardComparison candidate snapshot new

/-- The condition of `trg_capture_time_members_insert_guard_v7` on the rows that its joins find. -/
def memberInsertGuard (build : AnalysisBuildRow) (snapshot : SnapshotRow)
    (candidate : Option CandidateRow) (new : NewMemberAssessment) : Bool :=
  rowsBelong build snapshot new &&
  (new.birthTimeRelation != "unavailable" || snapshot.birthTimeSeconds.isNone) &&
  (new.birthTimeRelation == "unavailable" || snapshot.birthTimeSeconds.isSome) &&
  new.donorEligibility == "ineligible" &&
  relationsBelong snapshot candidate new

/-! ## One input of an append -/

/-- What an append has found before it looks at an input: its run, its draft, and the rows of the
member and the candidate. -/
structure MemberAppend where
  scanRunId : Int
  volumeId : Int
  build : AnalysisBuildRow
  snapshot : SnapshotRow
  candidate : Option CandidateRow
  deriving DecidableEq, Repr

def MemberAppend.newRow (append : MemberAppend) (input : CaptureTimeMemberAssessmentInput) :
    NewMemberAssessment where
  analysisBuildId := append.build.id
  memberOrdinal := input.memberOrdinal
  volumeId := append.volumeId
  scanRunId := append.scanRunId
  exactGroupBuildId := append.build.exactGroupBuildId
  mediaObservationSnapshotId := input.mediaObservationSnapshotId
  candidateId := append.candidate.map fun candidate => candidate.id
  birthTimeRelation := input.birthTimeRelation.asStorageStr
  modifiedTimeRelation := input.modifiedTimeRelation.asStorageStr
  donorEligibility := input.donorEligibility.asStorageStr
  reasonCode := input.reasonCode
  createdAtMs := input.createdAtMs

/-- `append_capture_time_members_batch_impl` on an input of a member that has no row yet. -/
def appendCaptureTimeMember (append : MemberAppend) (input : CaptureTimeMemberAssessmentInput) :
    Result NewMemberAssessment := do
  validateMemberAssessmentPolicy input
    (append.candidate.map CandidateRow.toStoredMemberCandidate)
    append.snapshot.toStoredMemberObservation
  if memberInsertGuard append.build append.snapshot append.candidate (append.newRow input) then
    .ok (append.newRow input)
  else .error .sqlite

/-- The rows belong to the input: a draft of the run, with room for the member, and its snapshot. -/
structure MemberAppend.Serves (append : MemberAppend)
    (input : CaptureTimeMemberAssessmentInput) : Prop where
  draft : append.build.state = "draft"
  buildRun : append.build.scanRunId = append.scanRunId
  buildVolume : append.build.volumeId = append.volumeId
  room : input.memberOrdinal < append.build.expectedMemberCount
  created : append.build.createdAtMs ≤ input.createdAtMs
  snapshot : append.snapshot.id = input.mediaObservationSnapshotId
  snapshotRun : append.snapshot.scanRunId = append.scanRunId
  snapshotVolume : append.snapshot.volumeId = append.volumeId
  eligible : ∀ candidate ∈ append.candidate,
    candidate.evidenceGate = "eligible" ∧ candidate.semanticKind = "utc"

section Guard

variable {append : MemberAppend} {input : CaptureTimeMemberAssessmentInput}

theorem rowsBelong_of_serves (serves : append.Serves input) :
    rowsBelong append.build append.snapshot (append.newRow input) = true := by
  simp only [rowsBelong, MemberAppend.newRow, serves.draft, serves.buildRun, serves.buildVolume,
    serves.room, serves.created, serves.snapshot, serves.snapshotRun, serves.snapshotVolume,
    beq_self_eq_true, decide_true, Bool.and_self]

theorem appendCaptureTimeMember_eq_ok
    (expected : validateMemberAssessmentPolicy input
      (append.candidate.map CandidateRow.toStoredMemberCandidate)
      append.snapshot.toStoredMemberObservation = .ok ()) :
    appendCaptureTimeMember append input = .ok (append.newRow input) ↔
      memberInsertGuard append.build append.snapshot append.candidate (append.newRow input) =
        true := by
  unfold appendCaptureTimeMember
  rw [expected, Outcome.ok_bind]
  split
  · rename_i holds
    exact ⟨fun _ => holds, fun _ => rfl⟩
  · rename_i fails
    exact ⟨nofun, fun holds => absurd holds fails⟩

theorem asStorageStr_eq_unavailable {relation : FileTimeRelation} :
    relation.asStorageStr = "unavailable" ↔ relation = .unavailable := by
  cases relation <;> decide

/-- For rows that belong to the input the trigger only looks at relations and reason. -/
theorem memberInsertGuard_iff (serves : append.Serves input)
    (births : input.birthTimeRelation = .unavailable ↔
      append.snapshot.birthTimeSeconds.isNone = true)
    (donor : input.donorEligibility = .ineligible) :
    memberInsertGuard append.build append.snapshot append.candidate (append.newRow input) = true ↔
      relationsBelong append.snapshot append.candidate (append.newRow input) = true := by
  have birth : (append.newRow input).birthTimeRelation = "unavailable" ↔
      append.snapshot.birthTimeSeconds.isNone = true :=
    asStorageStr_eq_unavailable.trans births
  have same : (append.newRow input).donorEligibility = "ineligible" := by
    show input.donorEligibility.asStorageStr = _
    rw [donor]
    rfl
  unfold memberInsertGuard
  rw [rowsBelong_of_serves serves, same]
  cases found : append.snapshot.birthTimeSeconds with
  | none =>
      rw [found] at birth
      simp [birth.mpr rfl]
  | some seconds =>
      rw [found] at birth
      have present : (append.newRow input).birthTimeRelation ≠ "unavailable" :=
        fun other => nomatch birth.mp other
      simp [present]

end Guard

/-! ## What the trigger finds -/

/-- The exact distance in nanoseconds. -/
def exactDistance (secondsApart candidateNanoseconds nanoseconds : Int) : Int :=
  secondsApart * 1000000000 + candidateNanoseconds - nanoseconds

/-- The distance with every step rounded to a double. -/
def roundedDistance (secondsApart candidateNanoseconds nanoseconds : Int) : Int :=
  nearestDouble (nearestDouble (nearestDouble (secondsApart * 1000000000) +
    candidateNanoseconds) - nanoseconds)

/-- The steps of the distance stay in the 64 bits. -/
def DistanceFits (secondsApart candidateNanoseconds nanoseconds : Int) : Prop :=
  FitsI64 (secondsApart * 1000000000) ∧
  FitsI64 (secondsApart * 1000000000 + candidateNanoseconds) ∧
  FitsI64 (exactDistance secondsApart candidateNanoseconds nanoseconds)

instance (secondsApart candidateNanoseconds nanoseconds : Int) :
    Decidable (DistanceFits secondsApart candidateNanoseconds nanoseconds) :=
  inferInstanceAs (Decidable (_ ∧ _ ∧ _))

/-- A distance that stays in the 64 bits is exact, but the least integer has no absolute value. Any
other has to be rounded to the side of the tolerance where it lies. -/
def DistanceExact (secondsApart candidateNanoseconds nanoseconds toleranceNs : Int) : Prop :=
  if DistanceFits secondsApart candidateNanoseconds nanoseconds then
    exactDistance secondsApart candidateNanoseconds nanoseconds ≠ i64Min
  else
    (((roundedDistance secondsApart candidateNanoseconds nanoseconds).natAbs : Int) ≤
        toleranceNs ↔
      ((exactDistance secondsApart candidateNanoseconds nanoseconds).natAbs : Int) ≤ toleranceNs)

instance (secondsApart candidateNanoseconds nanoseconds toleranceNs : Int) :
    Decidable (DistanceExact secondsApart candidateNanoseconds nanoseconds toleranceNs) := by
  unfold DistanceExact
  infer_instance

/-- The times of which the trigger says what exact arithmetic says: only seconds that are near
enough for the tolerance take the distance. -/
def GuardExact (secondsApart candidateNanoseconds nanoseconds toleranceNs : Int) : Prop :=
  secondsApart ≠ i64Min ∧
  ((secondsApart.natAbs : Int) ≤ toleranceNs / 1000000000 + 1 →
    DistanceExact secondsApart candidateNanoseconds nanoseconds toleranceNs)

instance (secondsApart candidateNanoseconds nanoseconds toleranceNs : Int) :
    Decidable (GuardExact secondsApart candidateNanoseconds nanoseconds toleranceNs) :=
  inferInstanceAs (Decidable (_ ∧ (_ → _)))

theorem relationText_injective : Function.Injective relationText := by
  intro left right
  cases left <;> cases right <;> decide

section Distance

variable {candidateSeconds seconds secondsApart candidateNanoseconds nanoseconds toleranceNs : Int}

/-- The distance that the trigger computes, for times of fewer than 9223372038 seconds apart. -/
theorem distance_eq (near : secondsApart.natAbs ≤ 9223372037)
    (candidateLow : 0 ≤ candidateNanoseconds) (candidateHigh : candidateNanoseconds < 1000000000)
    (low : 0 ≤ nanoseconds) (high : nanoseconds < 1000000000) :
    (((SqlNumber.integer secondsApart).mul (.integer 1000000000)).add
      (.integer candidateNanoseconds)).sub (.integer nanoseconds) =
      if DistanceFits secondsApart candidateNanoseconds nanoseconds then
        .integer (exactDistance secondsApart candidateNanoseconds nanoseconds)
      else .real (roundedDistance secondsApart candidateNanoseconds nanoseconds) := by
  have plainSeconds : nearestDouble secondsApart = secondsApart :=
    nearestDouble_of_lt (by omega)
  have plainScale : nearestDouble 1000000000 = 1000000000 := nearestDouble_of_lt (by decide)
  have plainCandidate : nearestDouble candidateNanoseconds = candidateNanoseconds :=
    nearestDouble_of_lt (by omega)
  have plainNanoseconds : nearestDouble nanoseconds = nanoseconds :=
    nearestDouble_of_lt (by omega)
  unfold SqlNumber.mul SqlNumber.add SqlNumber.sub roundedDistance
  by_cases scaled : FitsI64 (secondsApart * 1000000000)
  · rw [SqlNumber.arithmetic_of_fits scaled]
    by_cases summed : FitsI64 (secondsApart * 1000000000 + candidateNanoseconds)
    · rw [SqlNumber.arithmetic_of_fits summed]
      by_cases left : FitsI64 (secondsApart * 1000000000 + candidateNanoseconds - nanoseconds)
      · rw [SqlNumber.arithmetic_of_fits left, if_pos ⟨scaled, summed, left⟩]
        rfl
      · -- Only one distance of whole seconds reaches below the least integer.
        have least : secondsApart = -9223372036 := by
          unfold FitsI64 i64Min i64Max at scaled summed left
          omega
        have plainLeast : nearestDouble (secondsApart * 1000000000) =
            secondsApart * 1000000000 := by
          rw [least]
          decide
        rw [SqlNumber.arithmetic_of_not_fits left, if_neg fun fits => left fits.2.2, plainLeast,
          plainNanoseconds]
    · rw [SqlNumber.arithmetic_of_not_fits summed, SqlNumber.arithmetic_real,
        if_neg fun fits => summed fits.2.1, plainCandidate, plainNanoseconds]
  · rw [SqlNumber.arithmetic_of_not_fits scaled, SqlNumber.arithmetic_real,
      SqlNumber.arithmetic_real, if_neg fun fits => scaled fits.1, plainSeconds, plainScale,
      plainCandidate, plainNanoseconds]

/-- Near seconds: the trigger is exact when the distance is. -/
theorem abs_distance_iff (near : secondsApart.natAbs ≤ 9223372037)
    (candidateLow : 0 ≤ candidateNanoseconds) (candidateHigh : candidateNanoseconds < 1000000000)
    (low : 0 ≤ nanoseconds) (high : nanoseconds < 1000000000) :
    ((((((SqlNumber.integer secondsApart).mul (.integer 1000000000)).add
      (.integer candidateNanoseconds)).sub (.integer nanoseconds)).abs.map fun distance =>
        decide (distance.value ≤ toleranceNs)) =
      some (decide (((exactDistance secondsApart candidateNanoseconds nanoseconds).natAbs : Int) ≤
        toleranceNs))) ↔
      DistanceExact secondsApart candidateNanoseconds nanoseconds toleranceNs := by
  rw [distance_eq near candidateLow candidateHigh low high]
  unfold DistanceExact
  split
  · by_cases least : exactDistance secondsApart candidateNanoseconds nanoseconds = i64Min
    · rw [least, SqlNumber.abs_least]
      exact ⟨nofun, fun other => absurd rfl other⟩
    · rw [SqlNumber.abs_integer least]
      exact ⟨fun _ => least, fun _ => rfl⟩
  · show some (decide _) = some (decide _) ↔ _
    rw [Option.some.injEq, decide_eq_decide]
    exact Iff.rfl

/-- Seconds that are too far apart for the tolerance are no question of nanoseconds. -/
theorem not_within_of_far (candidateLow : 0 ≤ candidateNanoseconds)
    (candidateHigh : candidateNanoseconds < 1000000000) (low : 0 ≤ nanoseconds)
    (high : nanoseconds < 1000000000)
    (far : (secondsApart.natAbs : Int) > toleranceNs / 1000000000 + 1) :
    ¬ ((exactDistance secondsApart candidateNanoseconds nanoseconds).natAbs : Int) ≤
      toleranceNs := by
  unfold exactDistance
  omega

/-- When the trigger says of a time what exact arithmetic says. -/
theorem sqlWithinTolerance_iff (small : candidateSeconds.natAbs ≤ 10 ^ 13)
    (tolerance : toleranceNs ≤ i64Max) (candidateLow : 0 ≤ candidateNanoseconds)
    (candidateHigh : candidateNanoseconds < 1000000000) (low : 0 ≤ nanoseconds)
    (high : nanoseconds < 1000000000) :
    sqlWithinTolerance candidateSeconds candidateNanoseconds seconds (some nanoseconds)
        toleranceNs =
      some (decide (((exactDistance (candidateSeconds - seconds) candidateNanoseconds
        nanoseconds).natAbs : Int) ≤ toleranceNs)) ↔
      GuardExact (candidateSeconds - seconds) candidateNanoseconds nanoseconds toleranceNs := by
  unfold i64Max at tolerance
  unfold sqlWithinTolerance GuardExact
  dsimp only
  by_cases fits : FitsI64 (candidateSeconds - seconds)
  · have apart : (SqlNumber.integer candidateSeconds).sub (.integer seconds) =
        .integer (candidateSeconds - seconds) := SqlNumber.arithmetic_of_fits fits
    rw [apart]
    by_cases least : candidateSeconds - seconds = i64Min
    · rw [least, SqlNumber.abs_least]
      exact ⟨nofun, fun exact_ => absurd rfl exact_.1⟩
    · rw [SqlNumber.abs_integer least, Option.bind_some, SqlNumber.value_integer]
      by_cases far : ((candidateSeconds - seconds).natAbs : Int) > toleranceNs / 1000000000 + 1
      · rw [if_pos far, decide_eq_false (not_within_of_far candidateLow candidateHigh low high far)]
        exact ⟨fun _ => ⟨least, fun near => absurd far (by omega)⟩, fun _ => rfl⟩
      · rw [if_neg far, abs_distance_iff (by omega) candidateLow candidateHigh low high]
        exact ⟨fun exact_ => ⟨least, fun _ => exact_⟩, fun exact_ => exact_.2 (by omega)⟩
  · obtain ⟨rounded, apart, large⟩ := SqlNumber.sub_of_not_fits (by omega) fits
    have beyond : ((candidateSeconds - seconds).natAbs : Int) >
        toleranceNs / 1000000000 + 1 := by
      unfold FitsI64 i64Min i64Max at fits
      omega
    have least : candidateSeconds - seconds ≠ i64Min := by
      intro same
      rw [same] at fits
      exact fits (by decide)
    rw [apart]
    show (if (rounded.natAbs : Int) > _ then some false else _) = _ ↔ _
    rw [if_pos (by omega), decide_eq_false (not_within_of_far candidateLow candidateHigh low high
      beyond)]
    exact ⟨fun _ => ⟨least, fun near => absurd beyond (by omega)⟩, fun _ => rfl⟩

/-- With a tolerance of fewer than 9223372035 seconds the trigger is exact, unless the seconds are
just so far apart that their difference has no absolute value. -/
theorem guardExact_of_fine (tolerance : toleranceNs < 9223372035 * 1000000000)
    (candidateLow : 0 ≤ candidateNanoseconds) (candidateHigh : candidateNanoseconds < 1000000000)
    (low : 0 ≤ nanoseconds) (high : nanoseconds < 1000000000) :
    GuardExact secondsApart candidateNanoseconds nanoseconds toleranceNs ↔
      secondsApart ≠ i64Min := by
  refine ⟨fun exact_ => exact_.1, fun least => ⟨least, fun near => ?_⟩⟩
  have fits : DistanceFits secondsApart candidateNanoseconds nanoseconds := by
    unfold DistanceFits FitsI64 exactDistance i64Min i64Max
    omega
  unfold DistanceExact
  rw [if_pos fits]
  unfold exactDistance i64Min
  omega

end Distance

/-- Seconds whose difference is the least integer. -/
example : ¬ GuardExact (-1 - i64Max) 0 0 1000000000 := by decide

/-- A distance just below the tolerance that is rounded to just above it. -/
example : ¬ GuardExact (-9223372037) 961205635 815981441 9223372036854775806 := by decide

end Guiying.Store
