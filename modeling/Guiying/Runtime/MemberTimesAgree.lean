import Guiying.Foundation.Outcome
import Guiying.Runtime.TimeBridge

/-!
# The assessments that the store expects

The runtime and the store compare the same nanoseconds with the same tolerance.
They differ in the reason: the runtime wants both times to match, the store is
content with one of them.
-/

namespace Guiying.Runtime

open Guiying.Foundation Guiying.Foundation.MachineInt
open Guiying.Store
open Guiying.Time (NormalizedTimestamp UtcInstant OffsetKind TimestampConsistent nanosPerSecond)

/-! ## Stored values -/

structure FileTimestampParts.Valid (value : FileTimestampParts) : Prop where
  low : i64Min ≤ value.seconds
  high : value.seconds ≤ i64Max
  nanoseconds : value.nanoseconds < nanosPerSecond

/-- A member of a verified group, as it is read. -/
structure VerifiedMember extends DuplicateGroupMemberRecord where
  birthValid : ∀ value, birthTime = some value → FileTimestampParts.Valid value
  modifiedValid : FileTimestampParts.Valid modifiedTime
  granularityValid : ∀ value, timestampGranularityNs = some value → 0 < value ∧ value ≤ i64Max
  ordinalValid : 0 ≤ ordinal ∧ ordinal ≤ 8191
  observationIdValid : 0 < observationId

/-- The selected candidate of an analysis, and its row. -/
structure StoredCandidate where
  ordinal : Int
  timestamp : NormalizedTimestamp
  id : Int
  time : NormalizedCaptureTime
  instant : UtcInstant
  utc : timestamp.utcInstant = some instant
  stored : normalizedCaptureTime timestamp = .ok time
  ordinalValid : 0 ≤ ordinal

namespace VerifiedMember

/-- The columns of the observation. -/
def observation (member : VerifiedMember) : StoredMemberObservation where
  birthTimeSeconds := member.birthTime.map FileTimestampParts.seconds
  birthTimeNanoseconds := member.birthTime.map fun value => (value.nanoseconds : Int)
  modifiedTimeSeconds := member.modifiedTime.seconds
  modifiedTimeNanoseconds := member.modifiedTime.nanoseconds
  timestampGranularityNs := member.timestampGranularityNs

end VerifiedMember

namespace StoredCandidate

def strong (candidate : StoredCandidate) : Int × NormalizedTimestamp :=
  (candidate.ordinal, candidate.timestamp)

/-- The columns the writer selects by the ordinal. -/
def row (candidate : StoredCandidate) : StoredMemberCandidate where
  id := candidate.id
  utcSecondsDecimal := candidate.time.utcSecondsDecimal.getD []
  utcNanoseconds := candidate.time.utcNanoseconds.getD 0
  precisionNs := candidate.time.precisionNs

/-- The columns the audit joins by the id. -/
def joined (candidate : StoredCandidate) : JoinedCandidate where
  id := candidate.id
  utcSecondsDecimal := candidate.time.utcSecondsDecimal
  utcNanoseconds := candidate.time.utcNanoseconds.map fun value => (value : Int)
  precisionNs := some candidate.time.precisionNs
  evidenceGate := "eligible"
  semanticKind := candidate.time.semanticKind.asStorageStr

end StoredCandidate

/-- The row of an assessment that was appended. -/
def memberRow (analysisBuildId : Int) (input : CaptureTimeMemberAssessmentInput)
    (candidate : Option StoredCandidate) (member : VerifiedMember) : MemberRow where
  analysisBuildId := analysisBuildId
  memberOrdinal := input.memberOrdinal
  birthTimeRelation := input.birthTimeRelation.asStorageStr
  modifiedTimeRelation := input.modifiedTimeRelation.asStorageStr
  donorEligibility := input.donorEligibility.asStorageStr
  reasonCode := input.reasonCode
  candidateId := candidate.map StoredCandidate.id
  candidate := candidate.map StoredCandidate.joined
  observation := member.observation

/-! ## What a stored candidate says -/

namespace StoredCandidate

variable (candidate : StoredCandidate)

/-- A time that was stored has the parts of the timestamp, and its instant is the one that its wall
time and its offset say. -/
theorem time_eq : ∃ (wall : CaptureWallTime) (kind : CaptureTimeOffsetKind) (offset : Int),
    candidate.time = ⟨wall, .utc, kind, some offset,
      some (Decimal.text candidate.instant.unixSeconds), some candidate.instant.nanosecond,
      candidate.timestamp.precision.nanoseconds⟩ ∧
    (-840 ≤ offset ∧ offset ≤ 840) ∧
    parseCanonicalDecimal (Decimal.text candidate.instant.unixSeconds) =
      .ok (wallUnixSeconds wall - offset * 60) := by
  obtain ⟨_, timestamp, _, time, instant, utc, stored, _⟩ := candidate
  dsimp only
  unfold normalizedCaptureTime at stored
  obtain ⟨wall, -, stored⟩ := Outcome.bind_eq_ok.mp stored
  cases kind : timestamp.offsetKind with
  | missing =>
      rw [kind] at stored
      dsimp only at stored
      rw [if_pos (.inr (by rw [utc]; rfl))] at stored
      cases stored
  | explicit =>
      rw [kind] at stored
      dsimp only at stored
      split at stored
      · cases stored
      · rename_i offset _
        rw [utc] at stored
        obtain ⟨same, -, range, -, decimal, -⟩ :=
          NormalizedCaptureTime.utc_eq_ok (fromStore_eq_ok stored)
        exact ⟨wall, _, _, same, range, decimal⟩
  | quickTimeEpochAssumedUtc =>
      rw [kind] at stored
      dsimp only at stored
      split at stored
      · cases stored
      · split at stored
        · cases stored
        · rw [utc] at stored
          obtain ⟨same, -, range, -, decimal, -⟩ :=
            NormalizedCaptureTime.utc_eq_ok (fromStore_eq_ok stored)
          exact ⟨wall, _, _, same, range, decimal⟩

/-- The instant lies in the range of the calendar. -/
theorem instant_bounds : -10 ^ 13 ≤ candidate.instant.unixSeconds ∧
    candidate.instant.unixSeconds ≤ 10 ^ 13 := by
  obtain ⟨wall, kind, offset, -, range, decimal⟩ := candidate.time_eq
  have value := parseBoundedDecimal_eq_ok decimal
  rw [Decimal.parseI128_text] at value
  have same := (checkedI128_eq_some.mp value).2
  have bounds := wallUnixSeconds_bounds wall
  omega

theorem row_eq : candidate.row = ⟨candidate.id, Decimal.text candidate.instant.unixSeconds,
    candidate.instant.nanosecond, candidate.timestamp.precision.nanoseconds⟩ := by
  obtain ⟨wall, kind, offset, same, -⟩ := candidate.time_eq
  unfold row
  rw [same]
  rfl

theorem joined_eq : candidate.joined = ⟨candidate.id,
    some (Decimal.text candidate.instant.unixSeconds), some candidate.instant.nanosecond,
    some candidate.timestamp.precision.nanoseconds, "eligible", "utc"⟩ := by
  obtain ⟨wall, kind, offset, same, -⟩ := candidate.time_eq
  unfold joined
  rw [same]
  rfl

theorem parse_seconds :
    parseStoredUtcSeconds candidate.row.utcSecondsDecimal = .ok candidate.instant.unixSeconds := by
  have bounds := candidate.instant_bounds
  rw [row_eq]
  apply parseBoundedDecimal_text
  rw [checkedI128_eq_some, i128Min, i128Max]
  omega

end StoredCandidate

/-! ## One time -/

/-- The time is no further from the instant than both precisions allow. -/
def withinTolerance (value : FileTimestampParts) (granularityNs : Int)
    (candidate : StoredCandidate) : Prop :=
  ((value.seconds * nanosPerSecond + value.nanoseconds -
    candidate.instant.exactNanoseconds).natAbs : Int) ≤
    max granularityNs candidate.timestamp.precision.nanoseconds

instance (value : FileTimestampParts) (granularityNs : Int) (candidate : StoredCandidate) :
    Decidable (withinTolerance value granularityNs candidate) :=
  inferInstanceAs (Decidable (_ ≤ _))

/-- The relation that a comparison says. -/
def relation (value : FileTimestampParts) (granularityNs : Int) (candidate : StoredCandidate) :
    FileTimeRelation :=
  if withinTolerance value granularityNs candidate then .matches else .differs

section Compare

variable {value : FileTimestampParts} {granularityNs : Int}

theorem compareFileTimestamp_eq (candidate : StoredCandidate)
    (valid : FileTimestampParts.Valid value) (positive : 0 < granularityNs) :
    compareFileTimestamp value granularityNs candidate.timestamp =
      .ok (relation value granularityNs candidate) := by
  obtain ⟨low, high, nanos⟩ := valid
  have bounds := candidate.instant_bounds
  have file : ((checkedI128 (value.seconds * nanosPerSecond)).bind fun seconds =>
      checkedI128 (seconds + value.nanoseconds)) =
      some (value.seconds * nanosPerSecond + value.nanoseconds) := by
    unfold i64Min at low
    unfold i64Max at high
    unfold nanosPerSecond at nanos ⊢
    rw [Option.bind_eq_some_iff]
    refine ⟨_, checkedI128_eq_some.mpr ⟨?_, rfl⟩, checkedI128_eq_some.mpr ⟨?_, rfl⟩⟩
    · unfold i128Min i128Max
      omega
    · unfold i128Min i128Max
      omega
  have embedded : candidate.instant.totalNanoseconds = some candidate.instant.exactNanoseconds :=
    UtcInstant.totalNanoseconds_of_bounds (by omega) (by omega)
  unfold compareFileTimestamp relation withinTolerance
  rw [if_neg (by omega), if_neg (by omega), candidate.utc]
  dsimp only
  rw [file, embedded]
  dsimp only
  congr 2
  split <;> congr 1 <;> omega

theorem relationForTimestamp_eq (candidate : StoredCandidate)
    (valid : FileTimestampParts.Valid value) (positive : 0 < granularityNs) :
    relationForTimestamp candidate.instant.unixSeconds candidate.instant.nanosecond value.seconds
      value.nanoseconds (max granularityNs candidate.timestamp.precision.nanoseconds) =
      .ok (relation value granularityNs candidate) := by
  obtain ⟨low, high, nanos⟩ := valid
  have bounds := candidate.instant_bounds
  have below := candidate.instant.nanosecond_lt
  unfold i64Min at low
  unfold i64Max at high
  unfold nanosPerSecond at nanos below
  have components : (!isNanoseconds candidate.instant.nanosecond ||
      !isNanoseconds value.nanoseconds ||
      decide (max granularityNs (candidate.timestamp.precision.nanoseconds : Int) ≤ 0)) = false := by
    simp only [isNanoseconds, Bool.or_eq_false_iff, Bool.not_eq_false', Bool.and_eq_true,
      decide_eq_true_eq, decide_eq_false_iff_not]
    omega
  have embedded : ((checkedI128 (candidate.instant.unixSeconds * 1000000000)).bind fun whole =>
      checkedI128 (whole + candidate.instant.nanosecond)) =
      some candidate.instant.exactNanoseconds := by
    rw [Option.bind_eq_some_iff]
    refine ⟨_, checkedI128_eq_some.mpr ⟨?_, rfl⟩, checkedI128_eq_some.mpr ⟨?_, rfl⟩⟩
    · unfold i128Min i128Max
      omega
    · unfold i128Min i128Max
      omega
  have apart : ((checkedI128 (candidate.instant.exactNanoseconds -
      (value.seconds * 1000000000 + value.nanoseconds))).bind fun difference =>
        checkedI128 difference.natAbs) =
      some ((value.seconds * 1000000000 + value.nanoseconds -
        candidate.instant.exactNanoseconds).natAbs : Int) := by
    rw [Option.bind_eq_some_iff]
    unfold UtcInstant.exactNanoseconds nanosPerSecond
    refine ⟨_, checkedI128_eq_some.mpr ⟨?_, rfl⟩, checkedI128_eq_some.mpr ⟨?_, ?_⟩⟩
    · unfold i128Min i128Max
      omega
    · unfold i128Min i128Max
      omega
    · omega
  unfold relationForTimestamp relation withinTolerance
  rw [components]
  simp only [Bool.false_eq_true, if_false]
  rw [embedded]
  dsimp only
  rw [apart]
  rfl

end Compare

/-! ## One member -/

/-- The relation of the birth time, which a member may not have. -/
def birthRelation (member : VerifiedMember) (granularityNs : Int) (candidate : StoredCandidate) :
    FileTimeRelation :=
  match member.birthTime with
  | some value => relation value granularityNs candidate
  | none => .unavailable

def modifiedRelation (member : VerifiedMember) (granularityNs : Int)
    (candidate : StoredCandidate) : FileTimeRelation :=
  relation member.modifiedTime granularityNs candidate

section Member

variable {member : VerifiedMember} {candidate : StoredCandidate} {granularityNs : Int}

theorem assess_compared (known : member.timestampGranularityNs = some granularityNs) :
    assessMemberFilesystemTimes member.toDuplicateGroupMemberRecord (some candidate.strong) =
      .ok ⟨some candidate.ordinal, birthRelation member granularityNs candidate,
        modifiedRelation member granularityNs candidate,
        if (birthRelation member granularityNs candidate = .matches ∨
              birthRelation member granularityNs candidate = .unavailable) ∧
            modifiedRelation member granularityNs candidate = .matches then
          "embedded_time_matches_fs"
        else "embedded_time_differs_fs"⟩ := by
  have positive := (member.granularityValid granularityNs known).1
  have modified := compareFileTimestamp_eq candidate member.modifiedValid positive
  unfold assessMemberFilesystemTimes StoredCandidate.strong birthRelation modifiedRelation
  dsimp only
  rw [known]
  dsimp only
  rw [modified]
  cases birth : member.birthTime with
  | none => rfl
  | some value =>
      dsimp only
      rw [compareFileTimestamp_eq candidate (member.birthValid value birth) positive]
      rfl

theorem assess_unknown (unknown : member.timestampGranularityNs = none) :
    assessMemberFilesystemTimes member.toDuplicateGroupMemberRecord (some candidate.strong) =
      .ok ⟨some candidate.ordinal,
        if member.birthTime.isSome then .reviewFsPrecisionUnknown else .unavailable,
        .reviewFsPrecisionUnknown, "fs_precision_unknown"⟩ := by
  unfold assessMemberFilesystemTimes StoredCandidate.strong
  dsimp only
  rw [unknown]

theorem isNanoseconds_of_lt {nanoseconds : Nat} (below : nanoseconds < nanosPerSecond) :
    isNanoseconds nanoseconds = true := by
  unfold nanosPerSecond at below
  simp only [isNanoseconds, Bool.and_eq_true, decide_eq_true_eq]
  omega

theorem storedBirthTime_eq (member : VerifiedMember) :
    storedBirthTime member.observation =
      .ok (member.birthTime.map fun value => (value.seconds, (value.nanoseconds : Int))) := by
  unfold storedBirthTime VerifiedMember.observation
  cases birth : member.birthTime with
  | none => rfl
  | some value =>
      have inside := isNanoseconds_of_lt (member.birthValid value birth).nanoseconds
      simp only [Option.map_some, inside, if_true]

theorem modified_isNanoseconds (member : VerifiedMember) :
    isNanoseconds member.observation.modifiedTimeNanoseconds = true :=
  isNanoseconds_of_lt member.modifiedValid.nanoseconds

theorem expected_compared (known : member.timestampGranularityNs = some granularityNs) :
    expectedMemberAssessment (some candidate.row) member.observation =
      .ok (birthRelation member granularityNs candidate,
        modifiedRelation member granularityNs candidate,
        if birthRelation member granularityNs candidate = .matches ∨
            modifiedRelation member granularityNs candidate = .matches then
          "embedded_time_matches_fs"
        else "embedded_time_differs_fs") := by
  have positive := (member.granularityValid granularityNs known).1
  have modified := relationForTimestamp_eq candidate member.modifiedValid positive
  have precision := candidate.timestamp.precision.inRange
  unfold nanosPerSecond at precision
  have granularity : member.observation.timestampGranularityNs = some granularityNs := known
  have seconds : member.observation.modifiedTimeSeconds = member.modifiedTime.seconds := rfl
  have nanoseconds : member.observation.modifiedTimeNanoseconds =
    member.modifiedTime.nanoseconds := rfl
  unfold expectedMemberAssessment
  rw [storedBirthTime_eq, Outcome.ok_bind, modified_isNanoseconds]
  simp only [Bool.not_true, Bool.false_eq_true, if_false]
  rw [granularity]
  dsimp only
  rw [candidate.parse_seconds, candidate.row_eq]
  dsimp only
  rw [if_neg (by omega), Outcome.ok_bind]
  unfold birthRelation modifiedRelation
  cases birth : member.birthTime with
  | none =>
      rw [Option.map_none]
      dsimp only
      rw [Outcome.ok_bind, seconds, nanoseconds, modified, Outcome.ok_bind]
  | some value =>
      have compared := relationForTimestamp_eq candidate (member.birthValid value birth) positive
      rw [Option.map_some]
      dsimp only
      rw [compared, Outcome.ok_bind, seconds, nanoseconds, modified, Outcome.ok_bind]

theorem expected_unknown (unknown : member.timestampGranularityNs = none) :
    expectedMemberAssessment (some candidate.row) member.observation =
      .ok (if member.birthTime.isSome then .reviewFsPrecisionUnknown else .unavailable,
        .reviewFsPrecisionUnknown, "fs_precision_unknown") := by
  have granularity : member.observation.timestampGranularityNs = none := unknown
  unfold expectedMemberAssessment
  rw [storedBirthTime_eq, Outcome.ok_bind, modified_isNanoseconds]
  simp only [Bool.not_true, Bool.false_eq_true, if_false]
  rw [granularity, Option.isSome_map]

theorem expected_uncompared (member : VerifiedMember) :
    expectedMemberAssessment none member.observation =
      .ok (if member.birthTime.isSome then .notCompared else .unavailable, .notCompared,
        "no_strong_embedded_candidate") := by
  unfold expectedMemberAssessment
  rw [storedBirthTime_eq, Outcome.ok_bind, modified_isNanoseconds]
  simp only [Bool.not_true, Bool.false_eq_true, if_false]
  rw [Option.isSome_map]

end Member

/-! ## The agreement -/

/-- Whether the assessment of a member is what the store expects. -/
def TripleAgrees (member : VerifiedMember) (candidate : Option StoredCandidate) : Prop :=
  ∃ assessment,
    assessMemberFilesystemTimes member.toDuplicateGroupMemberRecord
      (candidate.map StoredCandidate.strong) = .ok assessment ∧
    expectedMemberAssessment (candidate.map StoredCandidate.row) member.observation =
      .ok (assessment.birthRelation, assessment.modifiedRelation, assessment.reasonCode)

/-- Of two times that are both compared, both lie within the tolerance or neither. -/
def TimesTogether (member : VerifiedMember) (candidate : Option StoredCandidate) : Prop :=
  ∀ chosen granularityNs birth, candidate = some chosen →
    member.timestampGranularityNs = some granularityNs → member.birthTime = some birth →
    (withinTolerance birth granularityNs chosen ↔
      withinTolerance member.modifiedTime granularityNs chosen)

section Agree

variable {member : VerifiedMember} {candidate : Option StoredCandidate}

theorem relation_eq_matches {value : FileTimestampParts} {granularityNs : Int}
    {chosen : StoredCandidate} : relation value granularityNs chosen = .matches ↔
      withinTolerance value granularityNs chosen := by
  unfold relation
  split
  · rename_i inside
    exact ⟨fun _ => inside, fun _ => rfl⟩
  · rename_i outside
    exact ⟨nofun, fun inside => absurd inside outside⟩

theorem relation_ne_unavailable {value : FileTimestampParts} {granularityNs : Int}
    {chosen : StoredCandidate} : relation value granularityNs chosen ≠ .unavailable := by
  unfold relation
  split
  · nofun
  · nofun

/-- The two reasons are the same exactly when both times stand together. -/
theorem tripleAgrees_iff : TripleAgrees member candidate ↔ TimesTogether member candidate := by
  cases candidate with
  | none =>
      refine ⟨fun _ _ _ _ => nofun, fun _ => ⟨_, rfl, ?_⟩⟩
      exact expected_uncompared member
  | some chosen =>
      cases known : member.timestampGranularityNs with
      | none =>
          constructor
          · intro _ other granularityNs birth _ some_
            rw [known] at some_
            cases some_
          · intro _
            exact ⟨_, assess_unknown known, expected_unknown known⟩
      | some granularityNs =>
          have assessed := @assess_compared member chosen granularityNs known
          have expected := @expected_compared member chosen granularityNs known
          cases birth : member.birthTime with
          | none =>
              have absent : birthRelation member granularityNs chosen = .unavailable := by
                unfold birthRelation
                rw [birth]
              constructor
              · intro _ _ _ _ _ _ some_
                rw [birth] at some_
                cases some_
              · intro _
                refine ⟨_, assessed, ?_⟩
                rw [Option.map_some, expected, absent]
                simp
          | some value =>
              have present : birthRelation member granularityNs chosen =
                  relation value granularityNs chosen := by
                unfold birthRelation
                rw [birth]
              have same : TimesTogether member (some chosen) ↔
                  (withinTolerance value granularityNs chosen ↔
                    withinTolerance member.modifiedTime granularityNs chosen) := by
                constructor
                · exact fun together => together chosen granularityNs value rfl known birth
                · rintro together _ _ _ ⟨rfl⟩ known' birth'
                  rw [known] at known'
                  rw [birth] at birth'
                  cases known'
                  cases birth'
                  exact together
              rw [same]
              constructor
              · rintro ⟨assessment, runtime, store⟩
                rw [Option.map_some] at runtime store
                rw [assessed] at runtime
                cases runtime
                rw [expected, present] at store
                simp only [Except.ok.injEq, Prod.mk.injEq, true_and] at store
                unfold modifiedRelation at store
                simp only [relation_eq_matches, relation_ne_unavailable, or_false] at store
                by_contra apart
                split at store <;> split at store
                · tauto
                · exact absurd store (by decide)
                · exact absurd store (by decide)
                · tauto
              · intro together
                refine ⟨_, assessed, ?_⟩
                rw [Option.map_some, expected, present]
                unfold modifiedRelation
                simp only [relation_eq_matches, relation_ne_unavailable, or_false, together,
                  and_self, or_self]

/-! ## The rows -/

/-- What `member_assessment` hands on is what the assessment says. -/
theorem memberAssessment_eq_ok {record : DuplicateGroupMemberRecord}
    {strong : Option (Int × NormalizedTimestamp)} {createdAtMs : Int}
    {input : CaptureTimeMemberAssessmentInput}
    (built : memberAssessment record strong createdAtMs = .ok input) :
    ∃ assessment, assessMemberFilesystemTimes record strong = .ok assessment ∧
      input = ⟨record.ordinal, record.observationId, assessment.candidateOrdinal,
        assessment.birthRelation, assessment.modifiedRelation, .ineligible,
        assessment.reasonCode, createdAtMs⟩ := by
  obtain ⟨assessment, assessed, built⟩ := Outcome.bind_eq_ok.mp built
  have new := fromStore_eq_ok built
  unfold CaptureTimeMemberAssessmentInput.new at new
  split at new
  · cases new
  · obtain ⟨_, _, new⟩ := Outcome.bind_eq_ok.mp new
    split at new
    · cases new
    · cases new
      exact ⟨assessment, assessed, rfl⟩

/-- The writer takes the input of an assessment it expects. -/
theorem TripleAgrees.appended (agrees : TripleAgrees member candidate) {createdAtMs : Int}
    {input : CaptureTimeMemberAssessmentInput}
    (built : memberAssessment member.toDuplicateGroupMemberRecord
      (candidate.map StoredCandidate.strong) createdAtMs = .ok input) :
    validateMemberAssessmentPolicy input (candidate.map StoredCandidate.row) member.observation =
      .ok () := by
  obtain ⟨assessment, assessed, expected⟩ := agrees
  obtain ⟨same, again, rfl⟩ := memberAssessment_eq_ok built
  rw [assessed] at again
  cases again
  unfold validateMemberAssessmentPolicy
  rw [expected, Outcome.ok_bind, if_neg]
  rintro (differs | differs | differs | differs) <;> exact differs rfl

theorem declared_uncompared {row : MemberRow} (birth : row.birthTimeRelation =
      (if row.observation.birthTimeSeconds.isSome then FileTimeRelation.notCompared
        else .unavailable).asStorageStr)
    (modified : row.modifiedTimeRelation = "not_compared")
    (donor : row.donorEligibility = "ineligible")
    (reason : row.reasonCode = "no_strong_embedded_candidate") (none_ : row.candidateId = none) :
    declaredMemberViolation row = false := by
  unfold declaredMemberViolation
  rw [birth, modified, donor, reason, none_]
  cases row.observation.birthTimeSeconds with
  | none => rfl
  | some _ => rfl

theorem declared_unknown {row : MemberRow} {id : Int} {joined : JoinedCandidate}
    (birth : row.birthTimeRelation =
      (if row.observation.birthTimeSeconds.isSome then FileTimeRelation.reviewFsPrecisionUnknown
        else .unavailable).asStorageStr)
    (modified : row.modifiedTimeRelation = "review_fs_precision_unknown")
    (donor : row.donorEligibility = "ineligible") (reason : row.reasonCode = "fs_precision_unknown")
    (some_ : row.candidateId = some id) (found : row.candidate = some joined)
    (gate : joined.evidenceGate = "eligible") (kind : joined.semanticKind = "utc")
    (unknown : row.observation.timestampGranularityNs = none) :
    declaredMemberViolation row = false := by
  unfold declaredMemberViolation
  rw [birth, modified, donor, reason, some_, found, unknown]
  simp only [Option.any_some, gate, kind]
  cases row.observation.birthTimeSeconds with
  | none => rfl
  | some _ => rfl

/-- Two compared times, or one when there is no birth time. -/
theorem declared_compared {row : MemberRow} {id granularityNs : Int} {joined : JoinedCandidate}
    {birthRelation modifiedRelation : FileTimeRelation}
    (birth : row.birthTimeRelation = birthRelation.asStorageStr)
    (modified : row.modifiedTimeRelation = modifiedRelation.asStorageStr)
    (donor : row.donorEligibility = "ineligible")
    (reason : row.reasonCode = if birthRelation = .matches ∨ modifiedRelation = .matches then
      "embedded_time_matches_fs" else "embedded_time_differs_fs")
    (some_ : row.candidateId = some id) (found : row.candidate = some joined)
    (gate : joined.evidenceGate = "eligible") (kind : joined.semanticKind = "utc")
    (known : row.observation.timestampGranularityNs = some granularityNs)
    (birthCases : row.observation.birthTimeSeconds = none ∧ birthRelation = .unavailable ∨
      row.observation.birthTimeSeconds.isSome ∧
        (birthRelation = .matches ∨ birthRelation = .differs))
    (modifiedCases : modifiedRelation = .matches ∨ modifiedRelation = .differs) :
    declaredMemberViolation row = false := by
  unfold declaredMemberViolation
  rw [birth, modified, donor, reason, some_, found, known]
  simp only [Option.any_some, gate, kind]
  rcases birthCases with ⟨absent, rfl⟩ | ⟨present, birthCases⟩
  · rw [absent]
    rcases modifiedCases with rfl | rfl <;> rfl
  · rw [Option.isNone_eq_false_iff.mpr present]
    rcases birthCases with rfl | rfl <;> rcases modifiedCases with rfl | rfl <;> rfl

theorem relation_cases (value : FileTimestampParts) (granularityNs : Int)
    (chosen : StoredCandidate) : relation value granularityNs chosen = .matches ∨
      relation value granularityNs chosen = .differs := by
  unfold relation
  split
  · exact .inl rfl
  · exact .inr rfl

theorem isSome_birthTimeSeconds (member : VerifiedMember) :
    member.observation.birthTimeSeconds.isSome = member.birthTime.isSome :=
  Option.isSome_map

/-- The bounds that the audit declares hold of a row with the expected times. -/
theorem declared_of_expected {row : MemberRow} {expected : Expected}
    (found : expectedMemberAssessment (candidate.map StoredCandidate.row) member.observation =
      .ok expected)
    (birth : row.birthTimeRelation = expected.1.asStorageStr)
    (modified : row.modifiedTimeRelation = expected.2.1.asStorageStr)
    (donor : row.donorEligibility = "ineligible") (reason : row.reasonCode = expected.2.2)
    (id : row.candidateId = candidate.map StoredCandidate.id)
    (joined : row.candidate = candidate.map StoredCandidate.joined)
    (observation : row.observation = member.observation) : declaredMemberViolation row = false := by
  have some_ := isSome_birthTimeSeconds member
  cases candidate with
  | none =>
      rw [Option.map_none, expected_uncompared] at found
      cases found
      refine declared_uncompared ?_ modified donor reason id
      rw [birth, observation, some_]
  | some chosen =>
      have gate : chosen.joined.evidenceGate = "eligible" := rfl
      have kind : chosen.joined.semanticKind = "utc" := by rw [chosen.joined_eq]
      cases known : member.timestampGranularityNs with
      | none =>
          rw [Option.map_some, expected_unknown known] at found
          cases found
          refine declared_unknown ?_ modified donor reason id joined gate kind ?_
          · rw [birth, observation, some_]
          · rw [observation]
            exact known
      | some granularityNs =>
          rw [Option.map_some, expected_compared known] at found
          cases found
          have granular : row.observation.timestampGranularityNs = some granularityNs := by
            rw [observation]
            exact known
          refine declared_compared birth modified donor reason id joined gate kind granular ?_
            (relation_cases _ _ _)
          · rw [observation]
            unfold birthRelation VerifiedMember.observation
            cases present : member.birthTime with
            | none => exact .inl ⟨rfl, rfl⟩
            | some value => exact .inr ⟨rfl, relation_cases _ _ _⟩

/-- The audit joins the candidate that the writer selected. -/
theorem joinedMemberCandidate_memberRow (analysisBuildId : Int)
    (input : CaptureTimeMemberAssessmentInput) :
    joinedMemberCandidate (memberRow analysisBuildId input candidate member) =
      .ok (candidate.map StoredCandidate.row) := by
  unfold joinedMemberCandidate memberRow
  cases candidate with
  | none => rfl
  | some chosen =>
      rw [Option.map_some, Option.map_some, Option.map_some, chosen.joined_eq, chosen.row_eq]
      dsimp only
      rw [if_pos ⟨rfl, rfl, rfl⟩]

/-- The audit takes the row of an assessment that the writer expected. -/
theorem TripleAgrees.audited (agrees : TripleAgrees member candidate) {createdAtMs : Int}
    {input : CaptureTimeMemberAssessmentInput}
    (built : memberAssessment member.toDuplicateGroupMemberRecord
      (candidate.map StoredCandidate.strong) createdAtMs = .ok input) (analysisBuildId : Int) :
    auditAccepts (memberRow analysisBuildId input candidate member) := by
  obtain ⟨assessment, assessed, expected⟩ := agrees
  obtain ⟨same, again, made⟩ := memberAssessment_eq_ok built
  rw [assessed] at again
  cases again
  have storedBirth : (memberRow analysisBuildId input candidate member).birthTimeRelation =
      assessment.birthRelation.asStorageStr := by
    rw [made]
    rfl
  have storedModified : (memberRow analysisBuildId input candidate member).modifiedTimeRelation =
      assessment.modifiedRelation.asStorageStr := by
    rw [made]
    rfl
  have storedDonor : (memberRow analysisBuildId input candidate member).donorEligibility =
      "ineligible" := by
    rw [made]
    rfl
  have storedReason : (memberRow analysisBuildId input candidate member).reasonCode =
      assessment.reasonCode := by
    rw [made]
    rfl
  constructor
  · exact declared_of_expected expected storedBirth storedModified storedDonor storedReason rfl rfl
      rfl
  · have observed : (memberRow analysisBuildId input candidate member).observation =
        member.observation := rfl
    unfold validateMemberRelation
    rw [if_neg (not_not.mpr storedDonor), joinedMemberCandidate_memberRow, Outcome.ok_bind,
      observed, expected, Outcome.ok_bind, if_neg]
    rintro (differs | differs | differs)
    · exact differs storedBirth
    · exact differs storedModified
    · exact differs storedReason

end Agree

end Guiying.Runtime
