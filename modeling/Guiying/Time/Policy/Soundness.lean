import Guiying.Time.Policy.StrongValue

/-!
# Soundness of eligible evidence

An eligible decision rests on a quiet analysis: nothing supplied is untrusted,
duplicated, self-contradictory or rejected, and no two strong values disagree.
Then the chosen candidate is an original time with an explicit offset, supported
by re-extracted sources only, plausible, and close to every strong value.
-/

namespace Guiying.Time.Policy

open Guiying.Foundation Guiying.Foundation.SortedSet Guiying.Foundation.MachineInt
open Guiying.Foundation.ByteString Guiying.Metadata

/-! ## Quiet analyses -/

theorem mem_codes_deduplicateIssues {issues : List PolicyIssue} {code : PolicyIssueCode} :
    code ∈ (deduplicateIssues issues).map (·.code) ↔ code ∈ issues.map (·.code) := by
  rw [deduplicateIssues, mem_map_destutter (fun left right same => (not_not.mp same).1)]
  simp [canonicalIssue]

/-- A property of codes survives deduplication. -/
theorem any_code_deduplicateIssues (test : PolicyIssueCode → Bool) (issues : List PolicyIssue) :
    ((deduplicateIssues issues).any fun issue => test issue.code) =
      issues.any fun issue => test issue.code := by
  rw [Bool.eq_iff_iff, List.any_eq_true, List.any_eq_true]
  have moved : ∀ list : List PolicyIssue, (∃ issue ∈ list, test issue.code = true) ↔
      ∃ code ∈ list.map (·.code), test code = true := by simp
  rw [moved, moved]
  simp only [mem_codes_deduplicateIssues]

/-- When the gate of every candidate is closed by a global conflict. -/
theorem settledFlags_globalConflict {sources : List EvidenceSource} {context : PolicyContext} :
    (settledFlags sources context).globalConflict = true ↔
      (visitSources sources).extractionUntrusted = true ∨
        (∃ code ∈ (visitedIssues 0 ∅ sources).map (·.code), marksGlobalConflict code = true) ∨
        Disagreement context (visitedAtoms 0 sources) := by
  have pass := conflictPasses_pass (visitSources sources) context
  obtain ⟨extra, appended, _, codes, reported⟩ := pass.appended
  simp only [settledFlags, analysisFlags, settledIssues, any_code_deduplicateIssues, appended,
    Bool.or_eq_true, List.any_append]
  rw [visitSources_issues, visitSources_atoms] at *
  refine or_congr Iff.rfl (or_congr (by simp) ⟨fun loud => ?_, fun disagreement => ?_⟩)
  · obtain ⟨issue, member, _⟩ := List.any_eq_true.mp loud
    by_contra agreement
    have same := congrArg Prod.snd (pass.quiet agreement)
    rw [appended, List.append_right_eq_self] at same
    rw [same] at member
    cases member
  · obtain ⟨issue, member⟩ := List.exists_mem_of_ne_nil _ (reported disagreement)
    exact List.any_eq_true.mpr ⟨issue, member, (codes issue member).1⟩

theorem settledFlags_invalidEvidence {sources : List EvidenceSource} {context : PolicyContext} :
    (settledFlags sources context).invalidEvidence = true ↔
      (visitSources sources).invalidEvidence = true ∨
        ∃ code ∈ (visitedIssues 0 ∅ sources).map (·.code), marksInvalidEvidence code = true := by
  obtain ⟨extra, appended, _, codes, _⟩ :=
    (conflictPasses_pass (visitSources sources) context).appended
  have silent : (extra.any fun issue => marksInvalidEvidence issue.code) = false :=
    List.any_eq_false.mpr fun issue member => by simp [(codes issue member).2]
  simp only [settledFlags, analysisFlags, settledIssues, any_code_deduplicateIssues, appended,
    Bool.or_eq_true, List.any_append, silent, visitSources_issues]
  simp

/-- Nothing was found wrong with any source, and no pass found a disagreement. -/
structure QuietAnalysis (sources : List EvidenceSource) (context : PolicyContext) : Prop where
  distinct : (sources.map (·.sourceKey)).Nodup
  trusted : ∀ source ∈ sources, untrustedReport source = false
  accepted : ∀ source ∈ sources, ∀ field ∈ source.report.fields,
    isRejected (interpretField field) = false
  quietIssues : ∀ issue ∈ visitedIssues 0 ∅ sources,
    marksGlobalConflict issue.code = false ∧ marksInvalidEvidence issue.code = false
  agreement : ¬ Disagreement context (visitedAtoms 0 sources)

theorem quietAnalysis_of_flags {sources : List EvidenceSource} {context : PolicyContext}
    (noConflict : (settledFlags sources context).globalConflict = false)
    (noInvalid : (settledFlags sources context).invalidEvidence = false) :
    QuietAnalysis sources context := by
  rw [Bool.eq_false_iff, ne_eq, settledFlags_globalConflict] at noConflict
  rw [Bool.eq_false_iff, ne_eq, settledFlags_invalidEvidence] at noInvalid
  simp only [not_or, not_exists, not_and, Bool.not_eq_true] at noConflict noInvalid
  obtain ⟨trusted, quietCodes, agreement⟩ := noConflict
  obtain ⟨accepted, validCodes⟩ := noInvalid
  have untrusted := mt (visitSources_extractionUntrusted sources).mpr (by simp [trusted])
  rw [not_or, not_not] at untrusted
  refine ⟨untrusted.1, fun source member => ?_, fun source member field present => ?_,
    fun issue member => ?_, agreement⟩
  · by_contra bad
    exact untrusted.2 ⟨source, member, by simpa using bad⟩
  · rw [visitSources_invalidEvidence] at accepted
    have fields := List.any_eq_false.mp accepted source member
    simp only [Bool.not_eq_true, List.any_eq_false] at fields
    exact fields field present
  · have code : issue.code ∈ (visitedIssues 0 ∅ sources).map (·.code) :=
      List.mem_map_of_mem member
    exact ⟨quietCodes _ code, validCodes _ code⟩

theorem settledAtoms_of_quiet {sources : List EvidenceSource} {context : PolicyContext}
    (quiet : QuietAnalysis sources context) :
    settledAtoms sources context = visitedAtoms 0 sources := by
  have same := (conflictPasses_pass (visitSources sources) context).quiet
    (by rw [visitSources_atoms]; exact quiet.agreement)
  rw [settledAtoms, same, visitSources_atoms]

namespace QuietAnalysis

variable {sources : List EvidenceSource} {context : PolicyContext} {source : EvidenceSource}

/-- No report of a quiet analysis contradicts itself. -/
theorem consistent (quiet : QuietAnalysis sources context) (member : source ∈ sources) :
    reportContradicts source.report = false := by
  obtain ⟨start, duplicate, _, issues⟩ := exists_visited_start member 0 ∅
  have silent : ∀ issue ∈ sourceIssues start duplicate source,
      marksGlobalConflict issue.code = false :=
    fun issue found => (quiet.quietIssues issue (issues found)).1
  have off : ∀ {condition : Bool} {issue : PolicyIssue},
      raiseIf condition issue ⊆ sourceIssues start duplicate source →
      marksGlobalConflict issue.code = true → condition = false := by
    intro condition issue raised loud
    cases condition with
    | false => rfl
    | true =>
        have quietCode := silent issue (raised (by simp))
        rw [loud] at quietCode
        cases quietCode
  have inIdentity : ∀ {issue}, issue ∈ identityIssues duplicate source →
      issue ∈ sourceIssues start duplicate source := fun here => by
    simp only [sourceIssues, List.mem_append]
    exact Or.inl (Or.inl (Or.inl here))
  have inStatus : ∀ {issue}, issue ∈ statusIssues source →
      issue ∈ sourceIssues start duplicate source := fun here => by
    simp only [sourceIssues, List.mem_append]
    exact Or.inl (Or.inr here)
  have parser : (source.report.parser != parserIdentity) = false :=
    off (fun _ here => inIdentity (List.mem_append_left _ (List.mem_append_right _ here))) rfl
  have budget : (!extractionBudgetMatches source.report) = false :=
    off (fun _ here => inIdentity (List.mem_append_right _ here)) rfl
  have status : statusContradiction source.report = false :=
    off (fun _ here => inStatus (List.mem_append_right _ here)) rfl
  have fields : source.report.fields.any (fieldContradicts source.report) = false := by
    refine List.any_eq_false.mpr fun field present => ?_
    rw [Bool.not_eq_true]
    obtain ⟨ref, referenced, observed⟩ := exists_sourceRef start present
    have sameField : ref.observation.field = field := by
      rw [observed]
      rfl
    have inField : ∀ {issue}, issue ∈ fieldIssues source ref →
        issue ∈ sourceIssues start duplicate source := fun here => by
      simp only [sourceIssues, List.mem_append]
      exact Or.inl (Or.inl (Or.inr (List.mem_flatMap.mpr ⟨ref, referenced, here⟩)))
    simp only [fieldIssues, sameField, List.mem_append] at inField
    simp only [fieldContradicts, Bool.or_eq_false_iff]
    refine ⟨⟨⟨?_, ?_⟩, ?_⟩, ?_⟩
    · exact off (fun _ here => inField (Or.inl (Or.inl (Or.inl (Or.inl here))))) rfl
    · exact off (fun _ here => inField (Or.inl (Or.inl (Or.inl (Or.inr here))))) rfl
    · exact off (fun _ here => inField (Or.inl (Or.inl (Or.inr here)))) rfl
    · exact off (fun _ here => inField (Or.inl (Or.inr here))) rfl
  simp only [reportContradicts, Bool.or_eq_false_iff]
  exact ⟨⟨⟨parser, budget⟩, fields⟩, status⟩

/-- A source with a field has the one status that lets its fields count. -/
theorem extracted (quiet : QuietAnalysis sources context) (member : source ∈ sources)
    (inhabited : source.report.fields ≠ []) : source.report.status = .extractedUnvalidated := by
  have trusted := quiet.trusted source member
  simp only [untrustedReport, untrustedStatus, Bool.or_eq_false_iff] at trusted
  obtain ⟨⟨notPartial, notFailed⟩, consistent⟩ := trusted
  unfold statusContradiction at consistent
  cases status : source.report.status with
  | extractedUnvalidated => rfl
  | partialExtraction => simp [status] at notPartial
  | failed => simp [status] at notFailed
  | noMetadata => simp [status, inhabited] at consistent
  | unsupported => simp [status, inhabited] at consistent

/-- Where the fields of a quiet source are processed, no companion is invalid. -/
theorem companionsValid (quiet : QuietAnalysis sources context) {start : Nat} {duplicate : Bool}
    (issues : sourceIssues start duplicate source ⊆ visitedIssues 0 ∅ sources) :
    CompanionsValid (trustedFields start source).2 := by
  intro issue found code
  have silent := (quiet.quietIssues issue (issues (List.mem_append_right _ found))).2
  rw [code] at silent
  cases silent

/-- The fields of a quiet source were processed, without a companion issue. -/
theorem processed (quiet : QuietAnalysis sources context) (member : source ∈ sources)
    (inhabited : source.report.fields ≠ []) :
    ∃ start, CompanionsValid (processSourceFields source (sourceRefs start source)).2 ∧
      (processSourceFields source (sourceRefs start source)).1 ⊆ visitedAtoms 0 sources := by
  obtain ⟨start, duplicate, atoms, issues⟩ := exists_visited_start member 0 ∅
  have trusted : trustedFields start source =
      processSourceFields source (sourceRefs start source) :=
    if_pos ⟨quiet.extracted member inhabited, quiet.consistent member⟩
  have valid := quiet.companionsValid issues
  rw [trusted] at atoms valid
  exact ⟨start, valid, atoms⟩

/-- Every strong value of a quiet analysis has a strong atom. -/
theorem exists_strongAtom (quiet : QuietAnalysis sources context) (member : source ∈ sources)
    {value : NormalizedTimestamp} (strong : StrongValue source.report value) :
    ∃ atom ∈ visitedAtoms 0 sources, atom.timestamp = value ∧ atom.strong = true := by
  have inhabited : source.report.fields ≠ [] := by
    cases strong with
    | original reading =>
        obtain ⟨field, _, _, _, _, present, _⟩ := reading
        exact List.ne_nil_of_mem present
    | quickTime field present hasKind reading => exact List.ne_nil_of_mem present
  obtain ⟨start, valid, subset⟩ := quiet.processed member inhabited
  cases strong with
  | original reading =>
      obtain ⟨atom, found, same, isStrong, _⟩ := exists_atom_of_originalValue valid reading
      exact ⟨atom, subset found, same, isStrong⟩
  | quickTime field present hasKind reading =>
      obtain ⟨atom, found, facts⟩ := exists_atom_of_quickTime present hasKind reading
      exact ⟨atom, subset found, facts⟩

/-- Every atom of a quiet analysis comes from a source, and a high one from its original time. -/
theorem atom_source (quiet : QuietAnalysis sources context) {atom : Atom}
    (member : atom ∈ visitedAtoms 0 sources) :
    ∃ source ∈ sources, atom.sourceKey = source.sourceKey ∧
      atom.sourceVerified = sourceVerified source ∧
      (atom.baseConfidence = .high → OriginalValue source.report atom.timestamp ∧
        atom.kind = .exifDateTimeOriginal ∧ atom.timestamp.offsetKind = .explicit) := by
  obtain ⟨source, present, start, duplicate, found, issues⟩ := mem_visitedAtoms ∅ member
  have valid := quiet.companionsValid issues
  unfold trustedFields at found valid
  split at found
  · rename_i trusted
    rw [if_pos trusted] at valid
    obtain ⟨key, verified⟩ := processSourceFields_source found
    refine ⟨source, present, key, verified, fun high => ?_⟩
    obtain ⟨reading, kind, base, offset, subsecond, combined⟩ :=
      originalValue_of_high valid found high
    exact ⟨reading, kind, offsetKind_of_combined combined⟩
  · cases found

end QuietAnalysis

/-! ## Plausibility -/

/-- What a sentinel rule says of a timestamp. -/
def SentinelMatches : SentinelRule → NormalizedTimestamp → Prop
  | .year year, timestamp => timestamp.wallTime.year = year
  | .date year month day, timestamp => timestamp.wallTime.year = year ∧
      timestamp.wallTime.month = month ∧ timestamp.wallTime.day = day
  | .wallTime value, timestamp => timestamp.wallTime = value
  | .unixSecond value, timestamp => ∃ instant, timestamp.utcInstant = some instant ∧
      instant.unixSeconds = value

theorem SentinelIndex.matches_iff (index : SentinelIndex) (timestamp : NormalizedTimestamp) :
    index.matches timestamp = true ↔
      timestamp.wallTime.year ∈ index.years ∨
      (timestamp.wallTime.year, timestamp.wallTime.month, timestamp.wallTime.day) ∈ index.dates ∨
      timestamp.wallTime ∈ index.wallTimes ∨
      ∃ instant, timestamp.utcInstant = some instant ∧
        instant.unixSeconds ∈ index.unixSeconds := by
  simp only [SentinelIndex.matches, Bool.or_eq_true, decide_eq_true_eq, Option.any_eq_true,
    or_assoc]

theorem SentinelIndex.matches_insertRule (index : SentinelIndex) (rule : SentinelRule)
    (timestamp : NormalizedTimestamp) :
    (index.insertRule rule).matches timestamp = true ↔
      SentinelMatches rule timestamp ∨ index.matches timestamp = true := by
  rw [matches_iff, matches_iff]
  cases rule with
  | year year => simp only [insertRule, Finset.mem_insert, SentinelMatches, or_assoc]
  | date year month day =>
      simp only [insertRule, Finset.mem_insert, SentinelMatches, Prod.mk.injEq, or_assoc]
      exact or_left_comm
  | wallTime value =>
      simp only [insertRule, Finset.mem_insert, SentinelMatches, or_assoc]
      constructor
      · rintro (year | date | same | rest)
        · exact Or.inr (Or.inl year)
        · exact Or.inr (Or.inr (Or.inl date))
        · exact Or.inl same
        · exact Or.inr (Or.inr (Or.inr rest))
      · rintro (same | year | date | rest)
        · exact Or.inr (Or.inr (Or.inl same))
        · exact Or.inl year
        · exact Or.inr (Or.inl date)
        · exact Or.inr (Or.inr (Or.inr rest))
  | unixSecond value =>
      simp only [insertRule, Finset.mem_insert, SentinelMatches, and_or_left, exists_or]
      constructor
      · rintro (year | date | wall | same | listed)
        · exact Or.inr (Or.inl year)
        · exact Or.inr (Or.inr (Or.inl date))
        · exact Or.inr (Or.inr (Or.inr (Or.inl wall)))
        · exact Or.inl same
        · exact Or.inr (Or.inr (Or.inr (Or.inr listed)))
      · rintro (same | year | date | wall | listed)
        · exact Or.inr (Or.inr (Or.inr (Or.inl same)))
        · exact Or.inl year
        · exact Or.inr (Or.inl date)
        · exact Or.inr (Or.inr (Or.inl wall))
        · exact Or.inr (Or.inr (Or.inr (Or.inr listed)))

/-- The index finds a match exactly when some rule matches. -/
theorem SentinelIndex.matches_fromRules (rules : List SentinelRule)
    (timestamp : NormalizedTimestamp) :
    (fromRules rules).matches timestamp = true ↔ ∃ rule ∈ rules, SentinelMatches rule timestamp := by
  have fold : ∀ index : SentinelIndex,
      (rules.foldl insertRule index).matches timestamp = true ↔
        (∃ rule ∈ rules, SentinelMatches rule timestamp) ∨ index.matches timestamp = true := by
    induction rules with
    | nil => simp
    | cons rule rest ih =>
        intro index
        rw [List.foldl_cons, ih, matches_insertRule]
        simp only [List.mem_cons, exists_eq_or_imp]
        rw [← or_assoc, or_comm (a := ∃ rule ∈ rest, SentinelMatches rule timestamp)]
  rw [fromRules, fold, matches_iff]
  simp

/-- A saturated value below a bound inside `i128` is the value itself, below the bound. -/
theorem le_of_saturateI128_le {value bound : Int} (fits : bound < i128Max)
    (le : saturateI128 value ≤ bound) : value ≤ bound := by
  unfold saturateI128 at le
  omega

theorem le_of_le_saturateI128 {value bound : Int} (fits : i128Min < value)
    (le : value ≤ saturateI128 bound) : value ≤ bound := by
  unfold saturateI128 at le
  omega

/-- An instant off the `i128` scale is far beyond the automatic range. -/
theorem unixSeconds_far_of_total_none {instant : UtcInstant}
    (off : instant.totalNanoseconds = none) :
    instant.unixSeconds < -10 ^ 20 ∨ 10 ^ 20 < instant.unixSeconds := by
  by_contra near
  rw [UtcInstant.totalNanoseconds_of_bounds (by omega) (by omega)] at off
  cases off

section Bound

variable {instant : UtcInstant} {value : Int} (low : minAutomaticUnixNanoseconds ≤ value)
  (high : value ≤ maxAutomaticUnixNanoseconds)
include low high

/-- The lower bound of an instant never cuts closer than the instant itself. -/
theorem exactNanoseconds_le (inside : instantTotalBound instant ≤ value) :
    instant.exactNanoseconds ≤ value := by
  have nanos := instant.nanosecond_lt
  simp only [minAutomaticUnixNanoseconds, maxAutomaticUnixNanoseconds, nanosPerSecond] at *
  unfold instantTotalBound at inside
  cases total : instant.totalNanoseconds with
  | some exact =>
      rw [total, Option.getD_some, UtcInstant.totalNanoseconds_eq_some total] at inside
      exact inside
  | none =>
      have far := unixSeconds_far_of_total_none total
      rw [total, Option.getD_none] at inside
      simp only [UtcInstant.exactNanoseconds, nanosPerSecond]
      split at inside
      · omega
      · simp only [i128Max] at inside
        omega

theorem le_exactNanoseconds (inside : value ≤ instantTotalBound instant) :
    value ≤ instant.exactNanoseconds := by
  have nanos := instant.nanosecond_lt
  simp only [minAutomaticUnixNanoseconds, maxAutomaticUnixNanoseconds, nanosPerSecond] at *
  unfold instantTotalBound at inside
  cases total : instant.totalNanoseconds with
  | some exact =>
      rw [total, Option.getD_some, UtcInstant.totalNanoseconds_eq_some total] at inside
      exact inside
  | none =>
      have far := unixSeconds_far_of_total_none total
      rw [total, Option.getD_none] at inside
      simp only [UtcInstant.exactNanoseconds, nanosPerSecond]
      split at inside
      · simp only [i128Min] at inside
        omega
      · omega

end Bound

/-- An instant inside every automatic bound and not beyond the future tolerance. -/
structure PlausibleInstant (context : PolicyContext) (instant : UtcInstant) : Prop where
  afterFloor : minAutomaticUnixNanoseconds ≤ instant.exactNanoseconds
  beforeCeiling : instant.exactNanoseconds ≤ maxAutomaticUnixNanoseconds
  afterEarliest : ∀ earliest, context.automaticEarliestUtc = some earliest →
    earliest.exactNanoseconds ≤ instant.exactNanoseconds
  beforeLatest : ∀ latest, context.automaticLatestUtc = some latest →
    instant.exactNanoseconds ≤ latest.exactNanoseconds
  notFuture : instant.exactNanoseconds ≤ context.referenceUtc.exactNanoseconds +
    secondsToNanoseconds
      (min context.obviousFutureToleranceSeconds maxObviousFutureToleranceSeconds)

theorem plausibleInstant {context : PolicyContext} {timestamp : NormalizedTimestamp}
    {instant : UtcInstant} (found : timestamp.utcInstant = some instant)
    (inRange : isInsideAutomaticRange timestamp context = true)
    (notFuture : isObviouslyFuture timestamp context = false) :
    PlausibleInstant context instant := by
  unfold isInsideAutomaticRange at inRange
  unfold isObviouslyFuture at notFuture
  rw [found] at inRange notFuture
  cases total : instant.totalNanoseconds with
  | none => simp [total] at inRange
  | some value =>
      have exact := UtcInstant.totalNanoseconds_eq_some total
      dsimp only at notFuture
      rw [total] at notFuture
      simp only [total, decide_eq_true_eq, max_le_iff, le_min_iff] at inRange
      obtain ⟨_, ⟨floor, earliest⟩, ceiling, latest⟩ := inRange
      subst exact
      refine ⟨floor, ceiling, fun bound given => ?_, fun bound given => ?_, ?_⟩
      · rw [given] at earliest
        exact exactNanoseconds_le floor ceiling earliest
      · rw [given] at latest
        exact le_exactNanoseconds floor ceiling latest
      · cases reference : context.referenceUtc.totalNanoseconds with
        | none => simp [reference] at notFuture
        | some now =>
            rw [UtcInstant.totalNanoseconds_eq_some reference] at reference
            simp only [reference, gt_iff_lt, decide_eq_false_iff_not, not_lt] at notFuture
            refine le_of_le_saturateI128 ?_ notFuture
            exact lt_of_lt_of_le (by decide) floor

/-! ## Agreement -/

/-- A strong value agrees with a timestamp: on the UTC scale when it has an instant, on the
wall-clock scale when it floats. -/
def WithinTolerance (context : PolicyContext) (timestamp value : NormalizedTimestamp) : Prop :=
  match value.utcInstant with
  | some other => ∀ instant, timestamp.utcInstant = some instant →
      |instant.exactNanoseconds - other.exactNanoseconds| ≤ strongTolerance context
  | none => |wallNanoseconds timestamp - wallNanoseconds value| ≤ strongTolerance context

theorem strongTolerance_lt (context : PolicyContext) : strongTolerance context < i128Max := by
  have capped : effectiveStrongTolerance context ≤ 5 := Nat.min_le_right _ _
  simp only [strongTolerance, secondsToNanoseconds, i128Max, nanosPerSecond]
  omega

theorem sub_le_of_saturatingSub_le {context : PolicyContext} {left right : Int}
    (near : ¬ strongTolerance context < saturatingSub left right) :
    left - right ≤ strongTolerance context :=
  le_of_saturateI128_le (strongTolerance_lt context) (not_lt.mp near)

/-- Without a disagreement every strong value agrees with every strong instant. -/
theorem withinTolerance_of_agreement {context : PolicyContext} {atoms : List Atom}
    (agreement : ¬ Disagreement context atoms) {candidate strong : Atom}
    (hcandidate : candidate ∈ atoms) (hstrong : strong ∈ atoms)
    (candidateStrong : candidate.strong = true) (strongStrong : strong.strong = true)
    (candidateTotal : ∀ instant, candidate.timestamp.utcInstant = some instant →
      utcTotalNanoseconds candidate.timestamp = some instant.exactNanoseconds)
    (strongTotal : ∀ instant, strong.timestamp.utcInstant = some instant →
      utcTotalNanoseconds strong.timestamp = some instant.exactNanoseconds) :
    WithinTolerance context candidate.timestamp strong.timestamp := by
  unfold WithinTolerance
  cases found : strong.timestamp.utcInstant with
  | some other =>
      intro instant candidateFound
      have apart : ∀ left ∈ atoms, ∀ right ∈ atoms, left.strong = true → right.strong = true →
          ∀ leftTotal rightTotal, utcTotalNanoseconds left.timestamp = some leftTotal →
            utcTotalNanoseconds right.timestamp = some rightTotal →
            leftTotal - rightTotal ≤ strongTolerance context :=
        fun left hleft right hright leftStrong rightStrong leftTotal rightTotal leftValue
            rightValue => sub_le_of_saturatingSub_le fun far =>
          agreement (Or.inr (Or.inl ⟨left, hleft, right, hright, leftStrong, rightStrong,
            leftTotal, rightTotal, leftValue, rightValue, far⟩))
      have above := apart candidate hcandidate strong hstrong candidateStrong strongStrong _ _
        (candidateTotal instant candidateFound) (strongTotal other found)
      have below := apart strong hstrong candidate hcandidate strongStrong candidateStrong _ _
        (strongTotal other found) (candidateTotal instant candidateFound)
      exact abs_le.mpr ⟨by omega, above⟩
  | none =>
      have near : ¬ _ := fun far => agreement (Or.inr (Or.inr ⟨strong, hstrong, candidate,
        hcandidate, strongStrong, candidateStrong, found, far⟩))
      rw [not_or] at near
      have below := sub_le_of_saturatingSub_le near.1
      have above := sub_le_of_saturatingSub_le near.2
      exact abs_le.mpr ⟨by omega, above⟩

/-! ## The verdict -/

/-- A candidate that may enter an automatic repair plan. -/
structure EligibleEvidence (sources : List EvidenceSource) (context : PolicyContext)
    (candidate : TimeCandidate) : Prop where
  explicitOffset : candidate.timestamp.offsetKind = .explicit
  originalKind : .exifDateTimeOriginal ∈ candidate.evidenceKinds
  /-- The timestamp is read from a `DateTimeOriginal` field of a supporting source. -/
  original : ∃ source ∈ sources, source.sourceKey ∈ candidate.supportingSources ∧
    OriginalValue source.report candidate.timestamp
  supported : ∀ key ∈ candidate.supportingSources, ∃ source ∈ sources, source.sourceKey = key
  reextracted : ∀ source ∈ sources, source.sourceKey ∈ candidate.supportingSources →
    source.binding = .reextractedFromPinnedSource
  distinct : (sources.map (·.sourceKey)).Nodup
  complete : ∀ source ∈ sources, source.report.status ≠ .partialExtraction ∧
    source.report.status ≠ .failed
  consistent : ∀ source ∈ sources, reportContradicts source.report = false
  accepted : ∀ source ∈ sources, ∀ field ∈ source.report.fields,
    isRejected (interpretField field) = false
  plausiblyDated : ∃ instant, candidate.timestamp.utcInstant = some instant ∧
    PlausibleInstant context instant
  noHardSentinel : candidate.timestamp.wallTime.year ∉ hardSentinelYears
  noSentinelRule : ∀ rule ∈ context.sentinelRules, ¬ SentinelMatches rule candidate.timestamp
  agreement : ∀ source ∈ sources, ∀ value, StrongValue source.report value →
    WithinTolerance context candidate.timestamp value

/-- What an open gate says of the atoms a candidate was merged from. -/
structure OpenCandidate (context : PolicyContext) (atoms : List Atom) (flags : AnalysisFlags)
    (candidate : TimeCandidate) : Prop where
  kinds : ∀ kind, kind ∈ candidate.evidenceKinds ↔ ∃ atom ∈ atoms,
    candidate.timestamp = atom.timestamp ∧ atom.kind = kind
  sources : ∀ key, key ∈ candidate.supportingSources ↔ ∃ atom ∈ atoms,
    candidate.timestamp = atom.timestamp ∧ atom.sourceKey = key
  high : ∃ atom ∈ atoms, candidate.timestamp = atom.timestamp ∧ atom.baseConfidence = .high
  verified : ∀ atom ∈ atoms, candidate.timestamp = atom.timestamp → atom.sourceVerified = true
  noConflict : flags.globalConflict = false
  validEvidence : flags.invalidEvidence = false
  instant : candidate.timestamp.utcInstant.isSome = true
  noSentinel : hardSentinelYears.contains candidate.timestamp.wallTime.year = false ∧
    (SentinelIndex.fromRules context.sentinelRules).matches candidate.timestamp = false
  notFuture : isObviouslyFuture candidate.timestamp context = false
  inRange : isInsideAutomaticRange candidate.timestamp context = true

section FinishCandidate

variable (context : PolicyContext) (sentinelIndex : SentinelIndex) (flags : AnalysisFlags)
  (work : CandidateWork)

@[simp] theorem finishCandidate_timestamp :
    (finishCandidate context sentinelIndex flags work).1.timestamp = work.timestamp := rfl

@[simp] theorem finishCandidate_evidenceKinds :
    (finishCandidate context sentinelIndex flags work).1.evidenceKinds = sortDedup work.kinds :=
  rfl

@[simp] theorem finishCandidate_supportingSources :
    (finishCandidate context sentinelIndex flags work).1.supportingSources =
      sortDedup work.sources := rfl

@[simp] theorem finishCandidate_observationIndices :
    (finishCandidate context sentinelIndex flags work).1.observationIndices =
      sortDedup work.observations := rfl

end FinishCandidate

theorem openCandidate_of_eligible {atoms : List Atom} {context : PolicyContext}
    {flags : AnalysisFlags} {candidate : TimeCandidate}
    (member : candidate ∈ (buildCandidates atoms context
      (.fromRules context.sentinelRules) flags).1)
    (eligible : candidate.evidenceGate = .eligible) :
    OpenCandidate context atoms flags candidate := by
  obtain ⟨first, _, rfl⟩ := mem_buildCandidates.mp member
  obtain ⟨ready, sensible⟩ := finishCandidate_eligible_iff.mp eligible
  have items : ∀ atom, atom ∈ atoms.filter (fun atom => first.timestamp = atom.timestamp) ↔
      atom ∈ atoms ∧ first.timestamp = atom.timestamp := by simp
  refine
    { kinds := fun kind => ?_
      sources := fun key => ?_
      high := ?_
      verified := fun atom present same => ?_
      noConflict := ready.noConflict
      validEvidence := ready.validEvidence
      instant := ready.instant
      noSentinel := ⟨sensible.noHardSentinel, sensible.noSentinel⟩
      notFuture := sensible.notFuture
      inRange := sensible.inRange }
  · rw [finishCandidate_evidenceKinds, mem_sortDedup, mergedWork, List.mem_map]
    simp only [items, and_assoc, finishCandidate_timestamp]
  · rw [finishCandidate_supportingSources, mem_sortDedup, mergedWork, List.mem_map]
    simp only [items, and_assoc, finishCandidate_timestamp]
  · obtain ⟨atom, found, level⟩ := exists_high_of_strongest ready.high
    exact ⟨atom, ((items atom).mp found).1, ((items atom).mp found).2, level⟩
  · exact List.all_eq_true.mp ready.verified atom ((items atom).mpr ⟨present, same⟩)

namespace EligibleEvidence

variable {sources : List EvidenceSource} {context : PolicyContext} {candidate : TimeCandidate}

/-- Nothing said of eligible evidence depends on the recorded gate. -/
theorem withGate (evidence : EligibleEvidence sources context candidate)
    (gate : EvidenceGateDecision) :
    EligibleEvidence sources context { candidate with evidenceGate := gate } :=
  ⟨evidence.explicitOffset, evidence.originalKind, evidence.original, evidence.supported,
    evidence.reextracted, evidence.distinct, evidence.complete, evidence.consistent,
    evidence.accepted, evidence.plausiblyDated, evidence.noHardSentinel, evidence.noSentinelRule,
    evidence.agreement⟩

end EligibleEvidence

theorem eligibleEvidence_of_quiet {sources : List EvidenceSource} {context : PolicyContext}
    {flags : AnalysisFlags} {candidate : TimeCandidate} (quiet : QuietAnalysis sources context)
    (opened : OpenCandidate context (visitedAtoms 0 sources) flags candidate) :
    EligibleEvidence sources context candidate := by
  obtain ⟨atom, member, same, high⟩ := opened.high
  obtain ⟨source, present, key, _, fromOriginal⟩ := quiet.atom_source member
  obtain ⟨reading, kind, explicit⟩ := fromOriginal high
  rw [← same] at reading explicit
  obtain ⟨instant, found⟩ := Option.isSome_iff_exists.mp opened.instant
  have total : ∀ instant, candidate.timestamp.utcInstant = some instant →
      utcTotalNanoseconds candidate.timestamp = some instant.exactNanoseconds :=
    fun _ here => StrongValue.utcTotal (.original reading) here
  refine
    { explicitOffset := explicit
      originalKind := (opened.kinds _).mpr ⟨atom, member, same, kind⟩
      original := ⟨source, present, (opened.sources _).mpr ⟨atom, member, same, key⟩, reading⟩
      supported := fun key supporting => ?_
      reextracted := fun supporter listed supporting => ?_
      distinct := quiet.distinct
      complete := fun source listed => ?_
      consistent := fun source listed => quiet.consistent listed
      accepted := quiet.accepted
      plausiblyDated := ⟨instant, found, plausibleInstant found opened.inRange opened.notFuture⟩
      noHardSentinel := by simpa using opened.noSentinel.1
      noSentinelRule := fun rule listed hit => ?_
      agreement := fun source listed value strong => ?_ }
  · obtain ⟨other, hother, _, rfl⟩ := (opened.sources key).mp supporting
    obtain ⟨origin, listed, sameKey, _⟩ := quiet.atom_source hother
    exact ⟨origin, listed, sameKey.symm⟩
  · obtain ⟨other, hother, sameTime, sameKey⟩ := (opened.sources _).mp supporting
    obtain ⟨origin, hlisted, originKey, verified, _⟩ := quiet.atom_source hother
    have unique : origin = supporter :=
      List.inj_on_of_nodup_map quiet.distinct hlisted listed (originKey.symm.trans sameKey)
    rw [opened.verified other hother sameTime, unique] at verified
    simpa [sourceVerified] using verified.symm
  · have trusted := quiet.trusted source listed
    simp only [untrustedReport, untrustedStatus, Bool.or_eq_false_iff, beq_eq_false_iff_ne]
      at trusted
    exact trusted.1
  · have missed := (SentinelIndex.matches_fromRules _ _).mpr ⟨rule, listed, hit⟩
    rw [opened.noSentinel.2] at missed
    cases missed
  · obtain ⟨strongAtom, hstrong, rfl, isStrong⟩ := quiet.exists_strongAtom listed strong
    obtain ⟨own, hown, ownTime, ownStrong⟩ := quiet.exists_strongAtom present (.original reading)
    rw [← ownTime] at total ⊢
    exact withinTolerance_of_agreement quiet.agreement hown hstrong ownStrong isStrong total
      fun _ here => strong.utcTotal here

/-- An eligible decision rests on sound evidence. -/
theorem eligible_sound {sources : List EvidenceSource} {context : PolicyContext} {index : Nat}
    (decided : (analyzeTimestampEvidence sources context).decision = .evidenceEligible index) :
    ∃ candidate, (analyzeTimestampEvidence sources context).candidates[index]? = some candidate ∧
      EligibleEvidence sources context candidate := by
  have within : aggregateWithinLimits sources context = true := by
    by_contra exceeded
    rw [analyzeTimestampEvidence, if_pos (by simpa using exceeded)] at decided
    cases decided
  rw [analyzeTimestampEvidence_eq within] at decided ⊢
  dsimp only at decided ⊢
  obtain ⟨_, candidate, found, eligible⟩ := decideCandidates_eligible decided
  have listed : candidate ∈ sortedCandidates sources context := List.mem_of_getElem? found
  refine ⟨candidate, found, ?_⟩
  obtain ⟨before, built, gate, rfl, opens⟩ := mem_sortedCandidates listed
  have opened := openCandidate_of_eligible built (opens eligible)
  have quiet := quietAnalysis_of_flags opened.noConflict opened.validEvidence
  rw [settledAtoms_of_quiet quiet] at opened
  exact (eligibleEvidence_of_quiet quiet opened).withGate gate

/-! ## A source the verdict accepts -/

def sampleField (kind : MetadataFieldKind) (offset : Nat) (text : String) : MetadataField where
  parser := parserIdentity
  kind := kind
  encoding := .declaredAscii
  locator := ⟨offset, text.length + 1, .tiff 0 26 (exifTag kind) .littleEndian⟩
  rawBytes := text.toList.map ascii ++ [0]

/-- A TIFF with an original time and its offset, re-extracted by the caller. -/
def sampleSource : EvidenceSource where
  sourceKey := ⟨.filled 1⟩
  lineageKey := ⟨.filled 2⟩
  binding := .reextractedFromPinnedSource
  report :=
    { parser := parserIdentity
      limits := .default
      format := some .tiff
      status := .extractedUnvalidated
      fields := [sampleField .exifDateTimeOriginal 56 "2024:05:06 07:08:09",
        sampleField .exifOffsetTimeOriginal 76 "+01:00"]
      issues := []
      usage :=
        { bytesRead := 90, readOperations := 8, retainedFieldBytes := 27, fieldsEmitted := 2,
          ifdEntriesVisited := 3, maxDepthObserved := 2 } }

def sampleContext : PolicyContext := .conservative ⟨1720000000, 0, nanosPerSecond_pos⟩

theorem eligible_sound_sampleSource : ∃ candidate,
    (analyzeTimestampEvidence [sampleSource] sampleContext).candidates[0]? = some candidate ∧
      EligibleEvidence [sampleSource] sampleContext candidate :=
  eligible_sound (by decide +kernel)

end Guiying.Time.Policy
