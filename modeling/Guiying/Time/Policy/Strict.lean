import Guiying.Time.Policy.Unique

/-!
# Stricter contexts

Two analyses of the same sources under two contexts, one at least as strict as
the other. Eligibility under the stricter context need not carry over: a value
that context lowers takes no part in the last pass, so it blocks its neighbour
only under the laxer context. Besides the limit on the rules this is the only
way to lose it.
-/

namespace Guiying.Time.Policy

open Guiying.Foundation Guiying.Foundation.SortedSet Guiying.Foundation.MachineInt
open Guiying.Metadata

/-! ## Plausible instants -/

theorem instantTotalBound_le {bound : UtcInstant} {value : Int}
    (low : minAutomaticUnixNanoseconds ≤ value) (high : value ≤ maxAutomaticUnixNanoseconds)
    (le : bound.exactNanoseconds ≤ value) : instantTotalBound bound ≤ value := by
  unfold instantTotalBound
  cases total : bound.totalNanoseconds with
  | some exact =>
      rw [Option.getD_some, UtcInstant.totalNanoseconds_eq_some total]
      exact le
  | none =>
      have far := unixSeconds_far_of_total_none total
      have nanos := bound.nanosecond_lt
      simp only [minAutomaticUnixNanoseconds, maxAutomaticUnixNanoseconds, nanosPerSecond,
        UtcInstant.exactNanoseconds] at *
      rw [Option.getD_none, if_pos (by omega)]
      simp only [i128Min]
      omega

theorem le_instantTotalBound {bound : UtcInstant} {value : Int}
    (low : minAutomaticUnixNanoseconds ≤ value) (high : value ≤ maxAutomaticUnixNanoseconds)
    (le : value ≤ bound.exactNanoseconds) : value ≤ instantTotalBound bound := by
  unfold instantTotalBound
  cases total : bound.totalNanoseconds with
  | some exact =>
      rw [Option.getD_some, UtcInstant.totalNanoseconds_eq_some total]
      exact le
  | none =>
      have far := unixSeconds_far_of_total_none total
      have nanos := bound.nanosecond_lt
      simp only [minAutomaticUnixNanoseconds, maxAutomaticUnixNanoseconds, nanosPerSecond,
        UtcInstant.exactNanoseconds] at *
      rw [Option.getD_none, if_neg (by omega)]
      simp only [i128Max]
      omega

/-- On a reference that fits the scale, the checks accept every plausible instant. -/
theorem PlausibleInstant.accepted {context : PolicyContext} {timestamp : NormalizedTimestamp}
    {instant : UtcInstant} {reference : Int}
    (onScale : context.referenceUtc.totalNanoseconds = some reference)
    (found : timestamp.utcInstant = some instant) (sensible : PlausibleInstant context instant) :
    isInsideAutomaticRange timestamp context = true ∧ isObviouslyFuture timestamp context = false := by
  have floor := sensible.afterFloor
  have ceiling := sensible.beforeCeiling
  have total : instant.totalNanoseconds = some instant.exactNanoseconds := by
    have nanos := instant.nanosecond_lt
    simp only [minAutomaticUnixNanoseconds, maxAutomaticUnixNanoseconds, nanosPerSecond,
      UtcInstant.exactNanoseconds] at floor ceiling nanos
    exact UtcInstant.totalNanoseconds_of_bounds (by omega) (by omega)
  constructor
  · have earliest : (context.automaticEarliestUtc.map instantTotalBound).getD
        minAutomaticUnixNanoseconds ≤ instant.exactNanoseconds := by
      cases given : context.automaticEarliestUtc with
      | none => exact floor
      | some bound => exact instantTotalBound_le floor ceiling (sensible.afterEarliest bound given)
    have latest : instant.exactNanoseconds ≤
        (context.automaticLatestUtc.map instantTotalBound).getD maxAutomaticUnixNanoseconds := by
      cases given : context.automaticLatestUtc with
      | none => exact ceiling
      | some bound => exact le_instantTotalBound floor ceiling (sensible.beforeLatest bound given)
    have above := max_le floor earliest
    have below := le_min ceiling latest
    simp only [isInsideAutomaticRange, found, total, decide_eq_true_eq]
    exact ⟨above.trans below, above, below⟩
  · have notFuture := sensible.notFuture
    rw [← UtcInstant.totalNanoseconds_eq_some onScale] at notFuture
    simp only [isObviouslyFuture, found, total, onScale, gt_iff_lt, decide_eq_false_iff_not, not_lt]
    unfold saturateI128
    have small : instant.exactNanoseconds ≤ i128Max := ceiling.trans (by decide)
    exact le_max_of_le_right (le_min small notFuture)

theorem PlausibleTime.instant {context : PolicyContext} {timestamp : NormalizedTimestamp}
    {instant : UtcInstant} (sensible : PlausibleTime context timestamp)
    (found : timestamp.utcInstant = some instant) : PlausibleInstant context instant :=
  plausibleInstant found sensible.inRange sensible.notFuture

/-- A future check that passes at all has a reference on the scale. -/
theorem PlausibleTime.reference {context : PolicyContext} {timestamp : NormalizedTimestamp}
    {instant : UtcInstant} (sensible : PlausibleTime context timestamp)
    (found : timestamp.utcInstant = some instant) :
    ∃ reference, context.referenceUtc.totalNanoseconds = some reference := by
  have notFuture := sensible.notFuture
  cases reference : context.referenceUtc.totalNanoseconds with
  | some total => exact ⟨total, rfl⟩
  | none =>
      simp only [isObviouslyFuture, found, reference] at notFuture
      split at notFuture <;> simp_all

/-! ## Original times -/

/-- A reading of the original time with an instant that the context finds plausible. -/
structure PlausibleOriginal (sources : List EvidenceSource) (context : PolicyContext)
    (value : NormalizedTimestamp) (instant : UtcInstant) : Prop where
  original : ∃ source ∈ sources, OriginalValue source.report value
  found : value.utcInstant = some instant
  sensible : PlausibleInstant context instant
  noHardSentinel : value.wallTime.year ∉ hardSentinelYears
  noSentinel : ∀ rule ∈ context.sentinelRules, ¬ SentinelMatches rule value

namespace PlausibleOriginal

variable {sources : List EvidenceSource} {context : PolicyContext} {value : NormalizedTimestamp}
  {instant : UtcInstant}

theorem time (original : PlausibleOriginal sources context value instant) {reference : Int}
    (onScale : context.referenceUtc.totalNanoseconds = some reference) :
    PlausibleTime context value := by
  obtain ⟨inRange, notFuture⟩ := original.sensible.accepted onScale original.found
  refine ⟨by simpa using original.noHardSentinel, ?_, notFuture, inRange⟩
  rw [Bool.eq_false_iff, ne_eq, SentinelIndex.matches_fromRules]
  rintro ⟨rule, listed, hit⟩
  exact original.noSentinel rule listed hit

theorem of_time (original : ∃ source ∈ sources, OriginalValue source.report value)
    (found : value.utcInstant = some instant) (sensible : PlausibleTime context value) :
    PlausibleOriginal sources context value instant := by
  refine ⟨original, found, sensible.instant found, by simpa using sensible.noHardSentinel, ?_⟩
  intro rule listed hit
  have missed := (SentinelIndex.matches_fromRules _ _).mpr ⟨rule, listed, hit⟩
  rw [sensible.noSentinel] at missed
  cases missed

theorem explicit (original : PlausibleOriginal sources context value instant) :
    value.offsetKind = .explicit := by
  obtain ⟨source, _, reading⟩ := original.original
  rcases (StrongValue.original reading).offsetKind with missing | explicit
  · have agree := value.consistent
    rw [missing] at agree
    have found := original.found
    rw [agree.2] at found
    cases found
  · exact explicit

end PlausibleOriginal

namespace QuietAnalysis

variable {sources : List EvidenceSource} {context : PolicyContext}

theorem flags (quiet : QuietAnalysis sources context) :
    settledFlags sources context = ⟨false, false, false⟩ := by
  have untrusted : (visitSources sources).extractionUntrusted = false := by
    rw [Bool.eq_false_iff, ne_eq, visitSources_extractionUntrusted, not_or, not_not]
    refine ⟨quiet.distinct, ?_⟩
    rintro ⟨source, member, bad⟩
    rw [quiet.trusted source member] at bad
    cases bad
  have conflict : (settledFlags sources context).globalConflict = false := by
    rw [Bool.eq_false_iff, ne_eq, settledFlags_globalConflict, untrusted]
    rintro (loud | ⟨code, raised, loud⟩ | apart)
    · cases loud
    · obtain ⟨issue, member, rfl⟩ := List.mem_map.mp raised
      rw [(quiet.quietIssues issue member).1] at loud
      cases loud
    · exact quiet.agreement apart
  have invalid : (settledFlags sources context).invalidEvidence = false := by
    rw [Bool.eq_false_iff, ne_eq, settledFlags_invalidEvidence, visitSources_invalidEvidence]
    rintro (loud | ⟨code, raised, loud⟩)
    · obtain ⟨source, member, bad⟩ := List.any_eq_true.mp loud
      obtain ⟨field, present, rejected⟩ := List.any_eq_true.mp bad
      rw [quiet.accepted source member field present] at rejected
      cases rejected
    · obtain ⟨issue, member, rfl⟩ := List.mem_map.mp raised
      rw [(quiet.quietIssues issue member).2] at loud
      cases loud
  calc settledFlags sources context
      = ⟨(settledFlags sources context).globalConflict,
          (settledFlags sources context).invalidEvidence,
          (visitSources sources).extractionUntrusted⟩ := rfl
    _ = ⟨false, false, false⟩ := by rw [conflict, invalid, untrusted]

theorem builtCandidates_eq (quiet : QuietAnalysis sources context) :
    builtCandidates sources context =
      buildCandidates (visitedAtoms 0 sources) context (.fromRules context.sentinelRules)
        ⟨false, false, false⟩ := by
  rw [builtCandidates, settledAtoms_of_quiet quiet, quiet.flags]

/-- No atom of a quiet analysis is in conflict. -/
theorem atom_unconflicted (quiet : QuietAnalysis sources context) {atom : Atom}
    (member : atom ∈ visitedAtoms 0 sources) : atom.conflicted = false := by
  by_contra conflicted
  rw [Bool.not_eq_false] at conflicted
  obtain ⟨source, present, start, duplicate, found, issues⟩ := mem_visitedAtoms ∅ member
  unfold trustedFields at found
  split at found
  · rename_i trusted
    obtain ⟨issue, raised, code⟩ := conflicted_reported found conflicted
    have visited : issue ∈ visitedIssues 0 ∅ sources := by
      refine issues (List.mem_append_right _ ?_)
      rw [trustedFields, if_pos trusted]
      exact raised
    have silent := (quiet.quietIssues issue visited).1
    rcases code with code | code
    · rw [code] at silent
      cases silent
    · rw [code] at silent
      cases silent
  · cases found

/-- An original time with an explicit offset has a high atom. -/
theorem exists_highAtom (quiet : QuietAnalysis sources context) {source : EvidenceSource}
    (member : source ∈ sources) {value : NormalizedTimestamp}
    (reading : OriginalValue source.report value) (explicit : value.offsetKind = .explicit) :
    ∃ atom ∈ visitedAtoms 0 sources, atom.timestamp = value ∧ atom.baseConfidence = .high := by
  have inhabited : source.report.fields ≠ [] := by
    obtain ⟨field, _, _, _, _, present, _⟩ := reading
    exact List.ne_nil_of_mem present
  obtain ⟨start, valid, subset⟩ := quiet.processed member inhabited
  obtain ⟨atom, found, same, _, level⟩ := exists_atom_of_originalValue valid reading
  exact ⟨atom, subset found, same, level explicit⟩

/-- In a quiet analysis the high candidates are the plausible original times. -/
theorem exists_highAt_iff (quiet : QuietAnalysis sources context) {reference : Int}
    (onScale : context.referenceUtc.totalNanoseconds = some reference)
    {value : NormalizedTimestamp} {total : Int} :
    (∃ index candidate, HighAt (builtCandidates sources context).1 index candidate total ∧
        candidate.timestamp = value) ↔
      ∃ instant, total = instant.exactNanoseconds ∧
        PlausibleOriginal sources context value instant := by
  constructor
  · rintro ⟨index, candidate, at', rfl⟩
    have built := List.mem_of_getElem? at'.located
    obtain ⟨_, original, _⟩ := quiet.highOriginal built at'.high
    cases found : candidate.timestamp.utcInstant with
    | none =>
        have measured := at'.total
        rw [utcTotalNanoseconds, found] at measured
        cases measured
    | some instant =>
        have measured := quiet.high_value built at'.high found
        rw [at'.total, Option.some.injEq] at measured
        refine ⟨instant, measured, .of_time original found ?_⟩
        rw [builtCandidates, mem_buildCandidates] at built
        obtain ⟨atom, _, rfl⟩ := built
        exact (finishCandidate_high_iff.mp at'.high).2.1
  · rintro ⟨instant, rfl, original⟩
    obtain ⟨source, present, reading⟩ := original.original
    obtain ⟨atom, member, same, level⟩ := quiet.exists_highAtom present reading original.explicit
    obtain ⟨_, built, rfl⟩ : ∃ candidate ∈ (builtCandidates sources context).1,
        candidate = (finishCandidate context (.fromRules context.sentinelRules)
          ⟨false, false, false⟩ (mergedWork atom.timestamp ((visitedAtoms 0 sources).filter
            fun other => atom.timestamp = other.timestamp))).1 := by
      rw [quiet.builtCandidates_eq]
      exact ⟨_, mem_buildCandidates.mpr ⟨atom, member, rfl⟩, rfl⟩
    obtain ⟨index, located⟩ := List.mem_iff_getElem?.mp built
    have unconflicted : (mergedWork atom.timestamp ((visitedAtoms 0 sources).filter fun other =>
        atom.timestamp = other.timestamp)).conflicted = false := by
      refine List.any_eq_false.mpr fun other here => ?_
      rw [Bool.not_eq_true]
      exact quiet.atom_unconflicted (List.mem_filter.mp here).1
    have base : strongestConfidence ((visitedAtoms 0 sources).filter fun other =>
        atom.timestamp = other.timestamp) = .high :=
      strongestConfidence_of_high (List.mem_filter.mpr ⟨member, by simp⟩) level
    refine ⟨index, _, ⟨located, finishCandidate_high_iff.mpr ⟨?_, ?_, base⟩, ?_⟩, same⟩
    · rw [unconflicted]
      rfl
    · rw [mergedWork, same]
      exact original.time onScale
    · rw [finishCandidate_timestamp, mergedWork, same]
      exact StrongValue.utcTotal (.original reading) original.found

end QuietAnalysis

/-! ## Eligible analyses -/

/-- The instant of an eligible decision. -/
def eligibleInstant (analysis : TimeAnalysis) : Option UtcInstant :=
  match analysis.decision with
  | .evidenceEligible index => analysis.candidates[index]?.bind (·.timestamp.utcInstant)
  | _ => none

/-- The analysis is eligible, for this instant. -/
def EligibleFor (sources : List EvidenceSource) (context : PolicyContext) (instant : UtcInstant) :
    Prop :=
  eligibleInstant (analyzeTimestampEvidence sources context) = some instant

instance {sources : List EvidenceSource} {context : PolicyContext} {instant : UtcInstant} :
    Decidable (EligibleFor sources context instant) :=
  inferInstanceAs (Decidable (eligibleInstant _ = some instant))

theorem eligibleInstant_eq_some {analysis : TimeAnalysis} {instant : UtcInstant} :
    eligibleInstant analysis = some instant ↔
      ∃ index candidate, analysis.decision = .evidenceEligible index ∧
        analysis.candidates[index]? = some candidate ∧
        candidate.timestamp.utcInstant = some instant := by
  unfold eligibleInstant
  cases decided : analysis.decision with
  | evidenceEligible index => simp [Option.bind_eq_some_iff]
  | conflict => simp
  | noUsableEvidence => simp
  | reviewRequired index => simp

theorem eligibleFor_iff {sources : List EvidenceSource} {context : PolicyContext}
    {instant : UtcInstant} :
    EligibleFor sources context instant ↔
      aggregateWithinLimits sources context = true ∧
        ∃ index candidate, EligibleAt sources context index candidate instant ∧
          candidate.evidenceGate = .eligible := by
  rw [EligibleFor, eligibleInstant_eq_some]
  constructor
  · rintro ⟨index, candidate, decided, located, found⟩
    obtain ⟨within, sorted⟩ := mem_candidates (List.mem_of_getElem? located)
    rw [analyzeTimestampEvidence_eq within] at decided located
    dsimp only at decided located
    obtain ⟨_, chosen, sameIndex, eligible⟩ := decideCandidates_eligible decided
    rw [located] at sameIndex
    cases sameIndex
    obtain ⟨place, other, onCandidate⟩ := exists_eligibleAt sorted eligible
    have same := onCandidate.found
    rw [found] at same
    cases same
    exact ⟨within, place, candidate, onCandidate, eligible⟩
  · rintro ⟨within, place, candidate, onCandidate, eligible⟩
    have sorted := (mem_sortedCandidates_iff.mpr
      ⟨place, onCandidate.at'.located, eligible, onCandidate.untouched⟩).1
    obtain ⟨index, decided⟩ := exists_decideCandidates_eligible sorted eligible
    obtain ⟨_, chosen, located, chosenEligible⟩ := decideCandidates_eligible decided
    obtain ⟨chosenPlace, chosenInstant, onChosen⟩ :=
      exists_eligibleAt (List.mem_of_getElem? located) chosenEligible
    refine ⟨index, chosen, ?_, ?_, ?_⟩
    · rw [analyzeTimestampEvidence_eq within]
      dsimp only
      rw [onCandidate.noConflict, decided]
    · rw [analyzeTimestampEvidence_eq within]
      dsimp only
      exact located
    · rw [← onCandidate.unique onChosen]
      exact onChosen.found

/-! ## Two contexts -/

/-- One context is at least as strict as the other, around the same reference instants. -/
structure AtLeastAsStrict (strict lax : PolicyContext) : Prop where
  referenceUtc : strict.referenceUtc = lax.referenceUtc
  referenceWallTime : strict.referenceWallTime = lax.referenceWallTime
  strongTolerance :
    strict.strongEvidenceToleranceSeconds ≤ lax.strongEvidenceToleranceSeconds
  futureTolerance :
    strict.obviousFutureToleranceSeconds ≤ lax.obviousFutureToleranceSeconds
  earliest : ∀ bound, lax.automaticEarliestUtc = some bound →
    ∃ tighter, strict.automaticEarliestUtc = some tighter ∧
      bound.exactNanoseconds ≤ tighter.exactNanoseconds
  latest : ∀ bound, lax.automaticLatestUtc = some bound →
    ∃ tighter, strict.automaticLatestUtc = some tighter ∧
      tighter.exactNanoseconds ≤ bound.exactNanoseconds
  sentinelRules : lax.sentinelRules ⊆ strict.sentinelRules

namespace AtLeastAsStrict

variable {strict lax : PolicyContext} (stricter : AtLeastAsStrict strict lax)
include stricter

theorem tolerance_le : Policy.strongTolerance strict ≤ Policy.strongTolerance lax := by
  have cap : effectiveStrongTolerance strict ≤ effectiveStrongTolerance lax :=
    min_le_min_right _ stricter.strongTolerance
  simp only [Policy.strongTolerance, secondsToNanoseconds, nanosPerSecond]
  omega

theorem disagreement {atoms : List Atom} :
    Disagreement lax atoms → Disagreement strict atoms := by
  rintro (lineage | ⟨left, hleft, right, hright, leftStrong, rightStrong, leftTotal, rightTotal,
    leftValue, rightValue, far⟩ | ⟨left, hleft, right, hright, leftStrong, rightStrong, floats,
    far⟩)
  · exact Or.inl lineage
  · exact Or.inr (Or.inl ⟨left, hleft, right, hright, leftStrong, rightStrong, leftTotal,
      rightTotal, leftValue, rightValue, stricter.tolerance_le.trans_lt far⟩)
  · exact Or.inr (Or.inr ⟨left, hleft, right, hright, leftStrong, rightStrong, floats,
      far.imp stricter.tolerance_le.trans_lt stricter.tolerance_le.trans_lt⟩)

theorem quiet {sources : List EvidenceSource} (quiet : QuietAnalysis sources strict) :
    QuietAnalysis sources lax :=
  { quiet with agreement := mt stricter.disagreement quiet.agreement }

theorem plausibleInstant {instant : UtcInstant} (sensible : PlausibleInstant strict instant) :
    PlausibleInstant lax instant := by
  refine ⟨sensible.afterFloor, sensible.beforeCeiling, fun bound given => ?_,
    fun bound given => ?_, sensible.notFuture.trans ?_⟩
  · obtain ⟨tighter, found, le⟩ := stricter.earliest bound given
    exact le.trans (sensible.afterEarliest tighter found)
  · obtain ⟨tighter, found, le⟩ := stricter.latest bound given
    exact (sensible.beforeLatest tighter found).trans le
  · have cap := min_le_min_right maxObviousFutureToleranceSeconds stricter.futureTolerance
    rw [stricter.referenceUtc]
    simp only [secondsToNanoseconds, nanosPerSecond]
    omega

theorem plausibleOriginal {sources : List EvidenceSource} {value : NormalizedTimestamp}
    {instant : UtcInstant} (original : PlausibleOriginal sources strict value instant) :
    PlausibleOriginal sources lax value instant where
  original := original.original
  found := original.found
  sensible := stricter.plausibleInstant original.sensible
  noHardSentinel := original.noHardSentinel
  noSentinel := fun rule listed => original.noSentinel rule (stricter.sentinelRules listed)

end AtLeastAsStrict

/-- The original times that the context finds plausible denote one instant. -/
def OnePlausibleOriginal (sources : List EvidenceSource) (context : PolicyContext) : Prop :=
  ∀ left leftInstant right rightInstant, PlausibleOriginal sources context left leftInstant →
    PlausibleOriginal sources context right rightInstant → leftInstant = rightInstant

/-- Eligibility carries over to a laxer context exactly when that context has a list of rules
within its limit and finds no second original time plausible. -/
theorem eligibleFor_laxer_iff {sources : List EvidenceSource} {strict lax : PolicyContext}
    (stricter : AtLeastAsStrict strict lax) {instant : UtcInstant}
    (eligible : EligibleFor sources strict instant) :
    EligibleFor sources lax instant ↔
      lax.sentinelRules.length ≤ maxAnalysisSentinelRules ∧ OnePlausibleOriginal sources lax := by
  obtain ⟨within, index, candidate, onStrict, gate⟩ := eligibleFor_iff.mp eligible
  have quietLax := stricter.quiet onStrict.quiet
  have built := List.mem_of_getElem? onStrict.at'.located
  rw [onStrict.quiet.builtCandidates_eq, mem_buildCandidates] at built
  obtain ⟨atom, member, rfl⟩ := built
  obtain ⟨ready, sensible⟩ := finishCandidate_eligible_iff.mp gate
  obtain ⟨reference, onScale⟩ := sensible.reference onStrict.found
  have onScaleLax : lax.referenceUtc.totalNanoseconds = some reference := by
    rw [← stricter.referenceUtc]
    exact onScale
  obtain ⟨source, present, reading⟩ := (onStrict.quiet.highOriginal
    (List.mem_of_getElem? onStrict.at'.located) onStrict.at'.high).original
  have original := stricter.plausibleOriginal
    (PlausibleOriginal.of_time ⟨source, present, reading⟩ onStrict.found sensible)
  constructor
  · intro laxEligible
    obtain ⟨laxWithin, place, chosen, onLax, _⟩ := eligibleFor_iff.mp laxEligible
    refine ⟨((aggregateWithinLimits_iff _ _).mp laxWithin).2.1, ?_⟩
    have only : ∀ value other, PlausibleOriginal sources lax value other → other = instant := by
      intro value other plausibleOther
      obtain ⟨rivalPlace, rival, rivalAt, _⟩ :=
        (quietLax.exists_highAt_iff onScaleLax).mpr ⟨other, rfl, plausibleOther⟩
      by_contra different
      refine onLax.untouched ((quietLax.touched_iff onLax.at').mpr
        ⟨rivalPlace, rival, _, rivalAt, ?_⟩)
      exact fun same => different (UtcInstant.exactNanoseconds_injective same)
    intro left leftInstant right rightInstant plausibleLeft plausibleRight
    rw [only left leftInstant plausibleLeft, only right rightInstant plausibleRight]
  · rintro ⟨fewRules, only⟩
    have laxWithin : aggregateWithinLimits sources lax = true := by
      rw [aggregateWithinLimits_iff] at within ⊢
      exact ⟨within.1, fewRules, within.2.2⟩
    obtain ⟨place, chosen, at', sameTime⟩ :=
      (quietLax.exists_highAt_iff onScaleLax).mpr ⟨instant, rfl, original⟩
    have laxBuilt := List.mem_of_getElem? at'.located
    rw [quietLax.builtCandidates_eq, mem_buildCandidates] at laxBuilt
    obtain ⟨other, otherMember, rfl⟩ := laxBuilt
    have sameStamp : other.timestamp = atom.timestamp := sameTime
    have laxGate := finishCandidate_eligible_iff.mpr
      ⟨sameStamp ▸ ready, sameStamp ▸ original.time onScaleLax⟩
    refine eligibleFor_iff.mpr ⟨laxWithin, place, _, ⟨quietLax, ?_, ?_, at', ?_⟩, laxGate⟩
    · rw [quietLax.flags]
    · rw [sameTime]
      exact onStrict.found
    · rw [quietLax.touched_iff at']
      rintro ⟨rivalPlace, rival, rivalValue, rivalAt, different⟩
      obtain ⟨rivalInstant, rfl, rivalOriginal⟩ :=
        (quietLax.exists_highAt_iff onScaleLax).mp ⟨rivalPlace, rival, rivalAt, rfl⟩
      exact different (congrArg _ (only _ _ _ _ rivalOriginal original))

/-! ## A rival one second away -/

def sampleInstant : UtcInstant := ⟨1714975689, 0, nanosPerSecond_pos⟩

/-- A second camera file, whose original time is one second later. -/
def rivalSource : EvidenceSource where
  sourceKey := ⟨.filled 3⟩
  lineageKey := ⟨.filled 4⟩
  binding := .reextractedFromPinnedSource
  report :=
    { sampleSource.report with
      fields := [sampleField .exifDateTimeOriginal 56 "2024:05:06 07:08:10",
        sampleField .exifOffsetTimeOriginal 76 "+01:00"] }

/-- The sample context, with the second of the rival as a sentinel. -/
def rivalSentinelContext : PolicyContext :=
  { sampleContext with sentinelRules := [.unixSecond 1714975690] }

theorem rivalSentinelContext_strict : AtLeastAsStrict rivalSentinelContext sampleContext where
  referenceUtc := rfl
  referenceWallTime := rfl
  strongTolerance := le_rfl
  futureTolerance := le_rfl
  earliest := fun _ given => by cases given
  latest := fun _ given => by cases given
  sentinelRules := List.nil_subset _

theorem eligibleFor_laxer_iff_sampleSource :
    EligibleFor [sampleSource] sampleContext sampleInstant ↔
      sampleContext.sentinelRules.length ≤ maxAnalysisSentinelRules ∧
        OnePlausibleOriginal [sampleSource] sampleContext :=
  eligibleFor_laxer_iff rivalSentinelContext_strict (by decide +kernel)

/-- The sentinel takes the rival out of the last pass, and the other value becomes eligible. -/
theorem not_eligibleFor_laxer :
    ¬ ∀ sources strict lax instant, AtLeastAsStrict strict lax →
      EligibleFor sources strict instant → EligibleFor sources lax instant := by
  intro monotone
  have eligible : EligibleFor [sampleSource, rivalSource] rivalSentinelContext sampleInstant := by
    decide +kernel
  have lax := monotone _ _ sampleContext _ rivalSentinelContext_strict eligible
  have blocked : ¬ EligibleFor [sampleSource, rivalSource] sampleContext sampleInstant := by
    decide +kernel
  exact blocked lax

end Guiying.Time.Policy
