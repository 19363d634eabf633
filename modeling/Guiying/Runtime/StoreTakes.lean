import Guiying.Runtime.MemberTimesAgree
import Guiying.Store.MemberInsert

/-!
# Which assessments the store takes

An assessment that the writer expects is still compared by the trigger of its
table. That agrees with the writer unless the arithmetic of the database leaves
its 64 bits.
-/

namespace Guiying.Runtime

open Guiying.Foundation Guiying.Foundation.MachineInt
open Guiying.Store
open Guiying.Time (NormalizedTimestamp nanosPerSecond)

/-! ## The trigger and one time -/

/-- The row of the candidate that the append selects. -/
def StoredCandidate.candidateRow (candidate : StoredCandidate) : CandidateRow where
  toStoredMemberCandidate := candidate.row
  evidenceGate := "eligible"
  semanticKind := candidate.time.semanticKind.asStorageStr

theorem StoredCandidate.semanticKind_candidateRow (candidate : StoredCandidate) :
    candidate.candidateRow.semanticKind = "utc" := by
  obtain ⟨wall, kind, offset, same, -⟩ := candidate.time_eq
  unfold candidateRow
  rw [same]
  rfl

/-- The trigger compares the time with the candidate as exact arithmetic does. -/
def GuardExactAt (value : FileTimestampParts) (granularityNs : Int)
    (candidate : StoredCandidate) : Prop :=
  GuardExact (candidate.instant.unixSeconds - value.seconds) candidate.instant.nanosecond
    value.nanoseconds (max granularityNs candidate.timestamp.precision.nanoseconds)

instance (value : FileTimestampParts) (granularityNs : Int) (candidate : StoredCandidate) :
    Decidable (GuardExactAt value granularityNs candidate) :=
  inferInstanceAs (Decidable (GuardExact _ _ _ _))

section Trigger

variable {value : FileTimestampParts} {granularityNs : Int} {chosen : StoredCandidate}

theorem withinTolerance_iff_exactDistance : withinTolerance value granularityNs chosen ↔
    ((exactDistance (chosen.instant.unixSeconds - value.seconds) chosen.instant.nanosecond
      value.nanoseconds).natAbs : Int) ≤
      max granularityNs chosen.timestamp.precision.nanoseconds := by
  unfold withinTolerance exactDistance Time.UtcInstant.exactNanoseconds nanosPerSecond
  omega

theorem asStorageStr_relation : (relation value granularityNs chosen).asStorageStr =
    relationText (decide (withinTolerance value granularityNs chosen)) := by
  unfold relation
  by_cases inside : withinTolerance value granularityNs chosen
  · rw [if_pos inside, decide_eq_true inside]
    rfl
  · rw [if_neg inside, decide_eq_false inside]
    rfl

theorem guardRelation_iff (valid : FileTimestampParts.Valid value)
    (granularity : granularityNs ≤ i64Max) :
    guardRelation chosen.candidateRow granularityNs value.seconds
        (some (value.nanoseconds : Int)) =
      some (relation value granularityNs chosen).asStorageStr ↔
      GuardExactAt value granularityNs chosen := by
  have bounds := chosen.instant_bounds
  have below := chosen.instant.nanosecond_lt
  have nanos := valid.nanoseconds
  have precision := chosen.timestamp.precision.inRange
  unfold i64Max at granularity
  unfold nanosPerSecond at below nanos precision
  have fits : FitsI64 chosen.instant.unixSeconds := by
    unfold FitsI64 i64Min i64Max
    omega
  have tolerance : max granularityNs (chosen.timestamp.precision.nanoseconds : Int) ≤ i64Max := by
    unfold i64Max
    omega
  have columns : guardRelation chosen.candidateRow granularityNs value.seconds
      (some (value.nanoseconds : Int)) =
      (sqlWithinTolerance chosen.instant.unixSeconds chosen.instant.nanosecond value.seconds
        (some (value.nanoseconds : Int))
        (max granularityNs chosen.timestamp.precision.nanoseconds)).map relationText := by
    unfold guardRelation StoredCandidate.candidateRow
    rw [chosen.row_eq]
    dsimp only
    rw [castInteger_text fits]
  have mapped : some (relationText (decide (withinTolerance value granularityNs chosen))) =
      (some (decide (withinTolerance value granularityNs chosen))).map relationText := rfl
  rw [columns, asStorageStr_relation, mapped,
    (Option.map_injective relationText_injective).eq_iff,
    decide_eq_decide.mpr withinTolerance_iff_exactDistance]
  exact sqlWithinTolerance_iff (by omega) tolerance (by omega) (by omega) (by omega) (by omega)

/-- With a granularity of less than 292 years only one difference of seconds is out of reach. -/
theorem guardExactAt_of_fine (valid : FileTimestampParts.Valid value)
    (fine : granularityNs < 9223372035 * 1000000000) :
    GuardExactAt value granularityNs chosen ↔
      chosen.instant.unixSeconds - value.seconds ≠ i64Min := by
  have below := chosen.instant.nanosecond_lt
  have nanos := valid.nanoseconds
  have precision := chosen.timestamp.precision.inRange
  unfold nanosPerSecond at below nanos precision
  exact guardExact_of_fine (by omega) (by omega) (by omega) (by omega) (by omega)

end Trigger

/-! ## The trigger and one member -/

/-- The trigger compares both times of the member as exact arithmetic does. -/
def TriggerExact (member : VerifiedMember) (candidate : Option StoredCandidate) : Prop :=
  ∀ chosen granularityNs, candidate = some chosen →
    member.timestampGranularityNs = some granularityNs →
    GuardExactAt member.modifiedTime granularityNs chosen ∧
      ∀ birth, member.birthTime = some birth → GuardExactAt birth granularityNs chosen

/-- An append of the member: its rows are the member and the candidate. -/
structure Appends (append : MemberAppend) (member : VerifiedMember)
    (candidate : Option StoredCandidate) : Prop where
  observation : append.snapshot.toStoredMemberObservation = member.observation
  candidate : append.candidate = candidate.map StoredCandidate.candidateRow

/-- The store takes the assessment of a member, and finds nothing wrong with its row. -/
structure StoreTakes (member : VerifiedMember) (candidate : Option StoredCandidate) : Prop where
  triple : TripleAgrees member candidate
  appended : ∀ createdAtMs input append,
    memberAssessment member.toDuplicateGroupMemberRecord (candidate.map StoredCandidate.strong)
      createdAtMs = .ok input →
    Appends append member candidate → append.Serves input →
    appendCaptureTimeMember append input = .ok (append.newRow input)
  audited : ∀ analysisBuildId createdAtMs input,
    memberAssessment member.toDuplicateGroupMemberRecord (candidate.map StoredCandidate.strong)
      createdAtMs = .ok input →
    auditAccepts (memberRow analysisBuildId input candidate member)

section Taken

variable {member : VerifiedMember} {candidate : Option StoredCandidate} {append : MemberAppend}
  {input : CaptureTimeMemberAssessmentInput}

theorem validate_reason {reason : String}
    (named : reason ∈ ["no_strong_embedded_candidate", "fs_precision_unknown",
      "embedded_time_matches_fs", "embedded_time_differs_fs"]) :
    validateModelIdentifier "member_assessment_reason_code" reason = .ok () := by
  revert reason
  decide

/-- An assessment of a modified time is handed on, with one of the four reasons. -/
theorem exists_input_of_assessed {assessment : MemberFilesystemTimeAssessment}
    (assessed : assessMemberFilesystemTimes member.toDuplicateGroupMemberRecord
      (candidate.map StoredCandidate.strong) = .ok assessment)
    (ordinal : assessment.candidateOrdinal = candidate.map StoredCandidate.ordinal)
    (modified : assessment.modifiedRelation ≠ .unavailable)
    (reason : assessment.reasonCode ∈ ["no_strong_embedded_candidate", "fs_precision_unknown",
      "embedded_time_matches_fs", "embedded_time_differs_fs"]) : ∃ input,
    memberAssessment member.toDuplicateGroupMemberRecord (candidate.map StoredCandidate.strong) 0 =
      .ok input := by
  have known : assessment.candidateOrdinal.any (fun ordinal => decide (ordinal < 0)) = false := by
    rw [ordinal]
    cases candidate with
    | none => rfl
    | some chosen => exact decide_eq_false (not_lt.mpr chosen.ordinalValid)
  have inside : ¬ (¬ (0 ≤ member.ordinal ∧ member.ordinal ≤ 8191) ∨ member.observationId ≤ 0 ∨
      assessment.candidateOrdinal.any (fun ordinal => decide (ordinal < 0)) = true ∨
      (0 : Int) < 0) := by
    rintro (outside | nonpositive | negative | early)
    · exact outside member.ordinalValid
    · exact absurd member.observationIdValid (not_lt.mpr nonpositive)
    · rw [known] at negative
      cases negative
    · exact absurd early (lt_irrefl 0)
  unfold memberAssessment CaptureTimeMemberAssessmentInput.new
  rw [assessed, Outcome.ok_bind, if_neg inside, validate_reason reason, Outcome.ok_bind,
    if_neg modified]
  exact ⟨_, rfl⟩

/-- Every member has an input to hand on. -/
theorem exists_input (member : VerifiedMember) (candidate : Option StoredCandidate) : ∃ input,
    memberAssessment member.toDuplicateGroupMemberRecord (candidate.map StoredCandidate.strong) 0 =
      .ok input := by
  cases candidate with
  | none => exact exists_input_of_assessed rfl rfl nofun (by simp)
  | some chosen =>
      cases known : member.timestampGranularityNs with
      | none => exact exists_input_of_assessed (assess_unknown known) rfl nofun (by simp)
      | some granularityNs =>
          refine exists_input_of_assessed (assess_compared known) rfl relation_ne_unavailable ?_
          dsimp only
          split <;> simp

theorem Appends.birthTimeSeconds (appends : Appends append member candidate) :
    append.snapshot.birthTimeSeconds = member.birthTime.map FileTimestampParts.seconds :=
  congrArg StoredMemberObservation.birthTimeSeconds appends.observation

/-- The expected birth relation is unavailable exactly without a birth time. -/
theorem expected_birth_unavailable {expected : Expected}
    (found : expectedMemberAssessment (candidate.map StoredCandidate.row) member.observation =
      .ok expected) : expected.1 = .unavailable ↔ member.birthTime.isNone = true := by
  cases candidate with
  | none =>
      rw [Option.map_none, expected_uncompared] at found
      cases found
      cases member.birthTime <;> simp
  | some chosen =>
      cases known : member.timestampGranularityNs with
      | none =>
          rw [Option.map_some, expected_unknown known] at found
          cases found
          cases member.birthTime <;> simp
      | some granularityNs =>
          rw [Option.map_some, expected_compared known] at found
          cases found
          unfold birthRelation
          cases member.birthTime with
          | none => simp
          | some value => simp [relation_ne_unavailable]

theorem relationsBelong_none {snapshot : SnapshotRow} (rows : append.candidate = none) :
    relationsBelong snapshot append.candidate (append.newRow input) =
      (decide (input.birthTimeRelation.asStorageStr ∈ ["unavailable", "not_compared"]) &&
        input.modifiedTimeRelation.asStorageStr == "not_compared" &&
        input.reasonCode == "no_strong_embedded_candidate") := by
  unfold relationsBelong MemberAppend.newRow
  rw [rows]
  rfl

theorem relationsBelong_some {snapshot : SnapshotRow} {chosen : StoredCandidate}
    (rows : append.candidate = some chosen.candidateRow) :
    relationsBelong snapshot append.candidate (append.newRow input) =
      guardComparison chosen.candidateRow snapshot (append.newRow input) := by
  have kind := chosen.semanticKind_candidateRow
  have gate : chosen.candidateRow.evidenceGate = "eligible" := rfl
  have id : (append.newRow input).candidateId = some chosen.candidateRow.id := by
    unfold MemberAppend.newRow
    rw [rows]
    rfl
  unfold relationsBelong
  rw [id, rows]
  simp only [Option.any_some, kind, gate, beq_self_eq_true, Bool.true_and]

theorem asStorageStr_beq_matches (relation : FileTimeRelation) :
    (relation.asStorageStr == "matches") = decide (relation = .matches) := by
  cases relation <;> rfl

/-- The birth time is compared when there is one. -/
theorem birth_guard_iff {chosen : StoredCandidate} {granularityNs : Int}
    (appends : Appends append member (some chosen)) (granularity : granularityNs ≤ i64Max) :
    some (birthRelation member granularityNs chosen).asStorageStr =
        guardBirthRelation chosen.candidateRow append.snapshot granularityNs ↔
      ∀ birth, member.birthTime = some birth → GuardExactAt birth granularityNs chosen := by
  have nanoseconds : append.snapshot.birthTimeNanoseconds =
      member.birthTime.map fun value => (value.nanoseconds : Int) :=
    congrArg StoredMemberObservation.birthTimeNanoseconds appends.observation
  unfold guardBirthRelation birthRelation
  rw [appends.birthTimeSeconds, nanoseconds]
  cases present : member.birthTime with
  | none => exact ⟨fun _ _ => nofun, fun _ => rfl⟩
  | some value =>
      rw [Option.map_some, Option.map_some]
      dsimp only
      rw [eq_comm, guardRelation_iff (member.birthValid value present) granularity]
      constructor
      · rintro holds _ ⟨rfl⟩
        exact holds
      · exact fun holds => holds value rfl

/-- Both relations and the reason of a compared member. -/
theorem guardComparison_iff {chosen : StoredCandidate} {granularityNs : Int}
    (appends : Appends append member (some chosen))
    (known : member.timestampGranularityNs = some granularityNs)
    (birth : input.birthTimeRelation = birthRelation member granularityNs chosen)
    (modified : input.modifiedTimeRelation = modifiedRelation member granularityNs chosen)
    (reason : input.reasonCode =
      if birthRelation member granularityNs chosen = .matches ∨
          modifiedRelation member granularityNs chosen = .matches then
        "embedded_time_matches_fs"
      else "embedded_time_differs_fs") :
    guardComparison chosen.candidateRow append.snapshot (append.newRow input) = true ↔
      GuardExactAt member.modifiedTime granularityNs chosen ∧
        ∀ birth, member.birthTime = some birth → GuardExactAt birth granularityNs chosen := by
  have columns : append.snapshot.timestampGranularityNs = some granularityNs :=
    (congrArg StoredMemberObservation.timestampGranularityNs appends.observation).trans known
  have seconds : append.snapshot.modifiedTimeSeconds = member.modifiedTime.seconds :=
    congrArg StoredMemberObservation.modifiedTimeSeconds appends.observation
  have nanoseconds : append.snapshot.modifiedTimeNanoseconds = member.modifiedTime.nanoseconds :=
    congrArg StoredMemberObservation.modifiedTimeNanoseconds appends.observation
  have granularity := (member.granularityValid granularityNs known).2
  have births := birth_guard_iff appends granularity
  have birthNamed : (birthRelation member granularityNs chosen).asStorageStr ∈
      ["unavailable", "matches", "differs"] := by
    unfold birthRelation
    split
    · rcases relation_cases _ granularityNs chosen with same | same <;> rw [same] <;> decide
    · decide
  have modifiedNamed : (modifiedRelation member granularityNs chosen).asStorageStr ∈
      ["matches", "differs"] := by
    rcases relation_cases member.modifiedTime granularityNs chosen with same | same <;>
      unfold modifiedRelation <;> rw [same] <;> decide
  have reasonNamed : input.reasonCode =
      if (birthRelation member granularityNs chosen).asStorageStr == "matches" ||
          (modifiedRelation member granularityNs chosen).asStorageStr == "matches" then
        "embedded_time_matches_fs"
      else "embedded_time_differs_fs" := by
    rw [asStorageStr_beq_matches, asStorageStr_beq_matches, ← Bool.decide_or, reason]
    simp only [decide_eq_true_eq]
  unfold guardComparison MemberAppend.newRow
  rw [columns]
  dsimp only
  rw [birth, modified, ← reasonNamed, decide_eq_true birthNamed, decide_eq_true modifiedNamed,
    seconds, nanoseconds]
  simp only [Bool.true_and, Bool.and_eq_true, beq_iff_eq, beq_self_eq_true, and_true]
  rw [births]
  unfold modifiedRelation
  rw [eq_comm, guardRelation_iff member.modifiedValid granularity]

/-- The trigger takes the row of an expected input exactly when it compares the times exactly. -/
theorem guard_iff_triggerExact (appends : Appends append member candidate)
    (serves : append.Serves input)
    (expected : expectedMemberAssessment (candidate.map StoredCandidate.row) member.observation =
      .ok (input.birthTimeRelation, input.modifiedTimeRelation, input.reasonCode))
    (donor : input.donorEligibility = .ineligible) :
    memberInsertGuard append.build append.snapshot append.candidate (append.newRow input) = true ↔
      TriggerExact member candidate := by
  have births : input.birthTimeRelation = .unavailable ↔
      append.snapshot.birthTimeSeconds.isNone = true := by
    rw [appends.birthTimeSeconds, Option.isNone_map]
    exact expected_birth_unavailable expected
  rw [memberInsertGuard_iff serves births donor]
  cases candidate with
  | none =>
      rw [Option.map_none, expected_uncompared] at expected
      simp only [Except.ok.injEq, Prod.mk.injEq] at expected
      obtain ⟨birth, modified, reason⟩ := expected
      rw [relationsBelong_none appends.candidate, ← birth, ← modified, ← reason]
      refine ⟨fun _ _ _ => nofun, fun _ => ?_⟩
      cases member.birthTime <;> rfl
  | some chosen =>
      rw [relationsBelong_some appends.candidate]
      cases known : member.timestampGranularityNs with
      | none =>
          rw [Option.map_some, expected_unknown known] at expected
          simp only [Except.ok.injEq, Prod.mk.injEq] at expected
          obtain ⟨birth, modified, reason⟩ := expected
          have columns : append.snapshot.timestampGranularityNs = none :=
            (congrArg StoredMemberObservation.timestampGranularityNs appends.observation).trans
              known
          refine ⟨fun _ _ _ _ some_ => ?_, fun _ => ?_⟩
          · rw [known] at some_
            cases some_
          · unfold guardComparison MemberAppend.newRow
            rw [columns, appends.birthTimeSeconds, ← birth, ← modified, ← reason]
            cases member.birthTime <;> rfl
      | some granularityNs =>
          rw [Option.map_some, expected_compared known] at expected
          simp only [Except.ok.injEq, Prod.mk.injEq] at expected
          obtain ⟨birth, modified, reason⟩ := expected
          rw [guardComparison_iff appends known birth.symm modified.symm reason.symm]
          constructor
          · rintro holds _ _ ⟨rfl⟩ some_
            rw [known] at some_
            cases some_
            exact holds
          · exact fun holds => holds chosen granularityNs rfl known

theorem Appends.policyCandidate (appends : Appends append member candidate) :
    append.candidate.map CandidateRow.toStoredMemberCandidate =
      candidate.map StoredCandidate.row := by
  rw [appends.candidate]
  cases candidate <;> rfl

/-- An expected input is taken exactly when the trigger compares the times exactly. -/
theorem TripleAgrees.append_iff (agrees : TripleAgrees member candidate) {createdAtMs : Int}
    (built : memberAssessment member.toDuplicateGroupMemberRecord
      (candidate.map StoredCandidate.strong) createdAtMs = .ok input)
    (appends : Appends append member candidate) (serves : append.Serves input) :
    appendCaptureTimeMember append input = .ok (append.newRow input) ↔
      TriggerExact member candidate := by
  have policy := agrees.appended built
  rw [← appends.policyCandidate, ← appends.observation] at policy
  obtain ⟨assessment, assessed, expected⟩ := agrees
  obtain ⟨same, again, rfl⟩ := memberAssessment_eq_ok built
  rw [assessed] at again
  cases again
  exact (appendCaptureTimeMember_eq_ok policy).trans
    (guard_iff_triggerExact appends serves expected rfl)

/-- A draft for the member and the candidate, in the first run. -/
def draftOf (member : VerifiedMember) (candidate : Option StoredCandidate) : MemberAppend where
  scanRunId := 1
  volumeId := 1
  build := ⟨1, "draft", 1, 1, 1, member.ordinal + 1, 0⟩
  snapshot := ⟨member.observation, member.observationId, 1, 1⟩
  candidate := candidate.map StoredCandidate.candidateRow

theorem appends_draftOf : Appends (draftOf member candidate) member candidate :=
  ⟨rfl, rfl⟩

theorem serves_draftOf
    (built : memberAssessment member.toDuplicateGroupMemberRecord
      (candidate.map StoredCandidate.strong) 0 = .ok input) :
    (draftOf member candidate).Serves input := by
  obtain ⟨assessment, -, rfl⟩ := memberAssessment_eq_ok built
  constructor
  case room => exact Int.lt_succ member.ordinal
  case eligible =>
    intro row found
    obtain ⟨chosen, -, rfl⟩ := Option.map_eq_some_iff.mp found
    exact ⟨rfl, chosen.semanticKind_candidateRow⟩
  all_goals rfl

end Taken

/-- The store takes an assessment exactly when both compared times stand together and the trigger
compares them exactly. -/
theorem storeTakes_iff (member : VerifiedMember) (candidate : Option StoredCandidate) :
    StoreTakes member candidate ↔
      TimesTogether member candidate ∧ TriggerExact member candidate := by
  constructor
  · intro takes
    obtain ⟨input, built⟩ := exists_input member candidate
    have serves := serves_draftOf built
    have appended := takes.appended 0 input _ built appends_draftOf serves
    exact ⟨tripleAgrees_iff.mp takes.triple,
      (takes.triple.append_iff built appends_draftOf serves).mp appended⟩
  · rintro ⟨together, exact_⟩
    have agrees := tripleAgrees_iff.mpr together
    constructor
    · exact agrees
    · intro createdAtMs input append built appends serves
      exact (agrees.append_iff built appends serves).mpr exact_
    · intro analysisBuildId createdAtMs input built
      exact agrees.audited built analysisBuildId

/-- The first second of the epoch, read with an explicit offset of zero. -/
def epochTimestamp : NormalizedTimestamp where
  wallTime := ⟨1970, 1, 1, 0, 0, 0, 0, by decide⟩
  utcOffset := some .zero
  utcInstant := some ⟨0, 0, Time.nanosPerSecond_pos⟩
  offsetKind := .explicit
  precision := .seconds
  consistent := ⟨.zero, ⟨0, 0, Time.nanosPerSecond_pos⟩, rfl, rfl, by decide, rfl⟩

/-- The candidate of that second in the store. -/
def epochCandidate : StoredCandidate where
  ordinal := 0
  timestamp := epochTimestamp
  id := 1
  time := ⟨⟨1970, 1, 1, 0, 0, 0, 0, by decide⟩, .utc, .explicit, some 0, some ['0'], some 0,
    1000000000⟩
  instant := ⟨0, 0, Time.nanosPerSecond_pos⟩
  utc := rfl
  stored := by rfl
  ordinalValid := by decide

/-- A copy that was born in that second and modified an hour later. -/
def copiedMember : VerifiedMember where
  ordinal := 0
  observationId := 1
  birthTime := some ⟨0, 0⟩
  modifiedTime := ⟨3600, 0⟩
  timestampGranularityNs := some 1
  birthValid := by
    rintro value ⟨rfl⟩
    exact ⟨by decide, by decide, by decide⟩
  modifiedValid := ⟨by decide, by decide, by decide⟩
  granularityValid := by
    rintro value ⟨rfl⟩
    exact ⟨by decide, by decide⟩
  ordinalValid := ⟨by decide, by decide⟩
  observationIdValid := by decide

/-- The times of the copy do not stand together, and the store refuses its assessment. -/
theorem copiedMember_refused :
    ¬ ∀ (member : VerifiedMember) (candidate : Option StoredCandidate),
      StoreTakes member candidate := by
  intro takes
  have built : memberAssessment copiedMember.toDuplicateGroupMemberRecord
      (some epochCandidate.strong) 0 =
      .ok ⟨0, 1, some 0, .matches, .differs, .ineligible, "embedded_time_differs_fs", 0⟩ := by
    decide
  have appended := (takes copiedMember (some epochCandidate)).appended 0 _
    (draftOf copiedMember (some epochCandidate)) built appends_draftOf (serves_draftOf built)
  exact absurd appended (by decide)

end Guiying.Runtime
