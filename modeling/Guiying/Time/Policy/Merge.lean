import Guiying.Time.Policy.Bounds

/-!
# Merged candidates

The candidates in closed form: one for each distinct timestamp, merged from the
atoms that carry it. A candidate passes its gate only when every reason to block
it is absent, and the last pass can only add reasons.
-/

namespace Guiying.Time.Policy

open Guiying.Foundation Guiying.Foundation.SortedSet Guiying.Foundation.MachineInt
open Guiying.Metadata

/-! ## Confidence -/

theorem confidenceRank_injective : Function.Injective confidenceRank :=
  injective_of_listed [.conflict, .low, .medium, .high] fun value => by cases value <;> rfl

theorem confidenceRank_higherConfidence (left right : Confidence) :
    confidenceRank (higherConfidence left right) =
      max (confidenceRank left) (confidenceRank right) := by
  cases left <;> cases right <;> rfl

def strongestConfidence (atoms : List Atom) : Confidence :=
  atoms.foldl (fun best atom => higherConfidence best atom.baseConfidence) .conflict

theorem foldl_higherConfidence_rank (atoms : List Atom) (start : Confidence) :
    confidenceRank (atoms.foldl (fun best atom => higherConfidence best atom.baseConfidence) start) =
      max (confidenceRank start) ((atoms.map fun atom => confidenceRank atom.baseConfidence).foldr
        max 0) := by
  induction atoms generalizing start with
  | nil => simp
  | cons atom rest ih =>
      rw [List.foldl_cons, ih, confidenceRank_higherConfidence, List.map_cons, List.foldr_cons,
        max_assoc]

theorem confidenceRank_strongestConfidence (atoms : List Atom) :
    confidenceRank (strongestConfidence atoms) =
      (atoms.map fun atom => confidenceRank atom.baseConfidence).foldr max 0 := by
  rw [strongestConfidence, foldl_higherConfidence_rank]
  exact Nat.zero_max _

/-- Only a high atom makes the strongest confidence high. -/
theorem exists_high_of_strongest {atoms : List Atom} (high : strongestConfidence atoms = .high) :
    ∃ atom ∈ atoms, atom.baseConfidence = .high := by
  have rank := confidenceRank_strongestConfidence atoms
  rw [high] at rank
  clear high
  induction atoms with
  | nil => cases rank
  | cons atom rest ih =>
      by_cases found : atom.baseConfidence = .high
      · exact ⟨atom, List.mem_cons_self, found⟩
      · have low : confidenceRank atom.baseConfidence < confidenceRank .high := by
          generalize atom.baseConfidence = level at found
          cases level <;> first | decide | exact absurd rfl found
        rw [List.map_cons, List.foldr_cons] at rank
        have later : confidenceRank .high =
            (rest.map fun atom => confidenceRank atom.baseConfidence).foldr max 0 := by
          omega
        obtain ⟨other, member, high⟩ := ih later
        exact ⟨other, List.mem_cons_of_mem atom member, high⟩

/-- The strongest confidence is the least upper bound of the base confidences. -/
theorem confidenceRank_strongestConfidence_le {atoms : List Atom} {bound : Nat} :
    confidenceRank (strongestConfidence atoms) ≤ bound ↔
      ∀ atom ∈ atoms, confidenceRank atom.baseConfidence ≤ bound := by
  rw [confidenceRank_strongestConfidence]
  induction atoms with
  | nil => simp
  | cons first rest ih =>
      rw [List.map_cons, List.foldr_cons, List.forall_mem_cons, ← ih]
      exact max_le_iff

/-- A high atom makes the strongest confidence high. -/
theorem strongestConfidence_of_high {atoms : List Atom} {atom : Atom} (member : atom ∈ atoms)
    (high : atom.baseConfidence = .high) : strongestConfidence atoms = .high := by
  have atMost : ∀ level : Confidence, confidenceRank level ≤ confidenceRank .high := by
    intro level
    cases level <;> decide
  refine confidenceRank_injective (Nat.le_antisymm (atMost _) ?_)
  rw [← high]
  exact confidenceRank_strongestConfidence_le.mp le_rfl atom member

/-! ## Merging -/

/-- The work of a candidate whose atoms are `items`. -/
def mergedWork (timestamp : NormalizedTimestamp) (items : List Atom) : CandidateWork where
  timestamp := timestamp
  kinds := items.map (·.kind)
  sources := items.map (·.sourceKey)
  lineages := items.map (·.lineageKey)
  observations := items.flatMap (·.observationIndices)
  baseConfidence := strongestConfidence items
  conflicted := items.any (·.conflicted)
  invalidCompanion := items.any (·.invalidCompanion)
  allSourcesVerified := items.all (·.sourceVerified)

theorem foldl_mergeAtom_some (items : List Atom) (work : CandidateWork) :
    items.foldl (fun old item => some (mergeAtom item old)) (some work) =
      some {
        timestamp := work.timestamp
        kinds := work.kinds ++ items.map (·.kind)
        sources := work.sources ++ items.map (·.sourceKey)
        lineages := work.lineages ++ items.map (·.lineageKey)
        observations := work.observations ++ items.flatMap (·.observationIndices)
        baseConfidence := items.foldl
          (fun best atom => higherConfidence best atom.baseConfidence) work.baseConfidence
        conflicted := work.conflicted || items.any (·.conflicted)
        invalidCompanion := work.invalidCompanion || items.any (·.invalidCompanion)
        allSourcesVerified := work.allSourcesVerified && items.all (·.sourceVerified) } := by
  induction items generalizing work with
  | nil => simp
  | cons item rest ih =>
      rw [List.foldl_cons, ih]
      simp [mergeAtom, Bool.or_assoc, Bool.and_assoc]

theorem foldl_mergeAtom_none {items : List Atom} {timestamp : NormalizedTimestamp}
    (same : ∀ item ∈ items, item.timestamp = timestamp) (inhabited : items ≠ []) :
    items.foldl (fun old item => some (mergeAtom item old)) none =
      some (mergedWork timestamp items) := by
  cases items with
  | nil => exact absurd rfl inhabited
  | cons item rest =>
      have first : higherConfidence .conflict item.baseConfidence = item.baseConfidence := by
        cases item.baseConfidence <;> rfl
      rw [List.foldl_cons, foldl_mergeAtom_some]
      simp [mergeAtom, mergedWork, strongestConfidence, first, same item List.mem_cons_self]

/-- One candidate for each timestamp, in ascending order. -/
theorem mergeAtoms_values (atoms : List Atom) :
    (mergeAtoms atoms).values = (sortDedup (atoms.map (·.timestamp))).map fun timestamp =>
      mergedWork timestamp (atoms.filter fun atom => timestamp = atom.timestamp) := by
  rw [OrderedMap.values, mergeAtoms, OrderedMap.collect_entries, List.map_filterMap]
  refine (List.filterMap_congr fun timestamp member => ?_).trans
    (congrFun List.filterMap_eq_map _)
  rw [mem_sortDedup, List.mem_map] at member
  obtain ⟨atom, present, rfl⟩ := member
  have inhabited : atoms.filter (fun other => atom.timestamp = other.timestamp) ≠ [] :=
    List.ne_nil_of_mem (List.mem_filter.mpr ⟨present, by simp⟩)
  have alike : ∀ other ∈ atoms.filter (fun other => atom.timestamp = other.timestamp),
      other.timestamp = atom.timestamp := fun other found => by
    simpa [eq_comm] using (List.mem_filter.mp found).2
  rw [foldl_mergeAtom_none alike inhabited]
  rfl

/-- There is one built candidate for each timestamp of an atom. -/
theorem mem_buildCandidates {atoms : List Atom} {context : PolicyContext}
    {sentinelIndex : SentinelIndex} {flags : AnalysisFlags} {candidate : TimeCandidate} :
    candidate ∈ (buildCandidates atoms context sentinelIndex flags).1 ↔
      ∃ atom ∈ atoms, candidate = (finishCandidate context sentinelIndex flags
        (mergedWork atom.timestamp
          (atoms.filter fun other => atom.timestamp = other.timestamp))).1 := by
  simp only [buildCandidates, mergeAtoms_values, List.map_map, List.mem_map, mem_sortDedup]
  constructor
  · rintro ⟨timestamp, ⟨atom, member, rfl⟩, rfl⟩
    exact ⟨atom, member, rfl⟩
  · rintro ⟨atom, member, rfl⟩
    exact ⟨atom.timestamp, ⟨atom, member, rfl⟩, rfl⟩

/-! ## The gate -/

/-- Nothing blocks a candidate. -/
structure GateOpen (confidence : Confidence) (timestamp : NormalizedTimestamp)
    (anomalies : List CandidateAnomaly) (flags : AnalysisFlags) (allSourcesVerified : Bool) :
    Prop where
  high : confidence = .high
  instant : timestamp.utcInstant.isSome = true
  noConflict : flags.globalConflict = false
  noSentinel : CandidateAnomaly.sentinelValue ∉ anomalies
  notFuture : CandidateAnomaly.obviousFuture ∉ anomalies
  inRange : CandidateAnomaly.outsideAutomaticRange ∉ anomalies
  noEpochDoubt : CandidateAnomaly.quickTimeEpochSemanticUncertainty ∉ anomalies
  validCompanions : CandidateAnomaly.invalidCompanion ∉ anomalies
  validEvidence : flags.invalidEvidence = false
  trusted : flags.extractionUntrusted = false
  verified : allSourcesVerified = true

theorem evidenceGate_eligible {confidence : Confidence} {timestamp : NormalizedTimestamp}
    {anomalies : List CandidateAnomaly} {flags : AnalysisFlags} {allSourcesVerified : Bool}
    (eligible : evidenceGate confidence timestamp anomalies flags allSourcesVerified = .eligible) :
    GateOpen confidence timestamp anomalies flags allSourcesVerified := by
  unfold evidenceGate at eligible
  dsimp only at eligible
  split at eligible
  · rename_i unblocked
    rw [sortDedup_eq_nil_iff] at unblocked
    simp only [List.append_eq_nil_iff] at unblocked
    have off : ∀ {condition : Bool} {blocker : EvidenceGateBlocker},
        raiseIf condition blocker = [] → condition = false := by
      intro condition blocker empty
      cases condition
      · rfl
      · cases empty
    obtain ⟨⟨⟨⟨⟨⟨⟨⟨⟨low, instant⟩, conflict⟩, sentinel⟩, future⟩, range⟩, epoch⟩, invalid⟩,
      untrusted⟩, unverified⟩ := unblocked
    have conflict' := Bool.or_eq_false_iff.mp (off conflict)
    have invalid' := Bool.or_eq_false_iff.mp (off invalid)
    refine ⟨?_, ?_, conflict'.1, ?_, ?_, ?_, ?_, ?_, invalid'.1, off untrusted, ?_⟩
    · simpa using off low
    · simpa [Option.isSome_iff_ne_none] using off instant
    · simpa using off sentinel
    · simpa using off future
    · simpa using off range
    · simpa using off epoch
    · simpa using invalid'.2
    · simpa using off unverified
  · cases eligible

theorem evidenceGate_of_open {confidence : Confidence} {timestamp : NormalizedTimestamp}
    {anomalies : List CandidateAnomaly} {flags : AnalysisFlags} {allSourcesVerified : Bool}
    (gate : GateOpen confidence timestamp anomalies flags allSourcesVerified) :
    evidenceGate confidence timestamp anomalies flags allSourcesVerified = .eligible := by
  have instant : timestamp.utcInstant.isNone = false := by
    rw [Option.isNone_eq_false_iff]
    exact gate.instant
  have silent : ∀ {anomaly : CandidateAnomaly}, anomaly ∉ anomalies →
      anomalies.contains anomaly = false := by simp
  have conflict : (confidence == Confidence.conflict) = false := by
    rw [gate.high]
    rfl
  simp only [evidenceGate, instant, gate.high, gate.noConflict, gate.validEvidence, gate.trusted,
    gate.verified, silent gate.noSentinel, silent gate.notFuture, silent gate.inRange,
    silent gate.noEpochDoubt, silent gate.validCompanions]
  rfl

/-- No plausibility check of the context objects to a timestamp. -/
structure PlausibleTime (context : PolicyContext) (timestamp : NormalizedTimestamp) : Prop where
  noHardSentinel : hardSentinelYears.contains timestamp.wallTime.year = false
  noSentinel : (SentinelIndex.fromRules context.sentinelRules).matches timestamp = false
  notFuture : isObviouslyFuture timestamp context = false
  inRange : isInsideAutomaticRange timestamp context = true

/-- Merged work that only the context can still block. -/
structure ReadyWork (flags : AnalysisFlags) (work : CandidateWork) : Prop where
  high : work.baseConfidence = .high
  instant : work.timestamp.utcInstant.isSome = true
  unconflicted : work.conflicted = false
  validCompanions : work.invalidCompanion = false
  noEpochDoubt : .quickTimeMovieHeaderCreationTime ∉ work.kinds
  verified : work.allSourcesVerified = true
  noConflict : flags.globalConflict = false
  validEvidence : flags.invalidEvidence = false
  trusted : flags.extractionUntrusted = false

/-! ## Finished candidates -/

theorem settledConfidence_eq_high {conflict : Bool} {anomalies : List CandidateAnomaly}
    {baseConfidence : Confidence} :
    settledConfidence conflict anomalies baseConfidence = .high ↔
      conflict = false ∧ anomalies.any isImplausible = false ∧ baseConfidence = .high := by
  unfold settledConfidence
  cases conflict with
  | true => simp
  | false => cases anomalies.any isImplausible <;> simp

section Finish

variable {context : PolicyContext} {flags : AnalysisFlags} {work : CandidateWork}

/-- The anomalies recorded for finished work. -/
def workAnomalies (context : PolicyContext) (work : CandidateWork) : List CandidateAnomaly :=
  sortDedup (candidateAnomalies (canonicalWork work) context (.fromRules context.sentinelRules) ++
    raiseIf work.invalidCompanion .invalidCompanion)

/-- What each anomaly says of the work. -/
def AnomalyHolds (context : PolicyContext) (work : CandidateWork) : CandidateAnomaly → Prop
  | .missingOffset => work.timestamp.utcInstant.isNone = true
  | .quickTimeEpochSemanticUncertainty => .quickTimeMovieHeaderCreationTime ∈ work.kinds
  | .sentinelValue => hardSentinelYears.contains work.timestamp.wallTime.year = true ∨
      (SentinelIndex.fromRules context.sentinelRules).matches work.timestamp = true
  | .obviousFuture => isObviouslyFuture work.timestamp context = true
  | .outsideAutomaticRange => isInsideAutomaticRange work.timestamp context = false
  | .invalidCompanion => work.invalidCompanion = true

theorem mem_workAnomalies {anomaly : CandidateAnomaly} :
    anomaly ∈ workAnomalies context work ↔ AnomalyHolds context work anomaly := by
  simp only [workAnomalies, mem_sortDedup, List.mem_append, candidateAnomalies, mem_raiseIf,
    canonicalWork]
  cases anomaly <;> simp [AnomalyHolds]

theorem workAnomalies_quiet :
    (workAnomalies context work).any isImplausible = false ↔
      PlausibleTime context work.timestamp := by
  rw [List.any_eq_false]
  simp only [mem_workAnomalies]
  constructor
  · intro quiet
    have sentinel : ¬ AnomalyHolds context work .sentinelValue := fun here => quiet _ here rfl
    have future : ¬ AnomalyHolds context work .obviousFuture := fun here => quiet _ here rfl
    have outside : ¬ AnomalyHolds context work .outsideAutomaticRange :=
      fun here => quiet _ here rfl
    simp only [AnomalyHolds, not_or, Bool.not_eq_true, Bool.not_eq_false] at sentinel future outside
    exact ⟨sentinel.1, sentinel.2, future, outside⟩
  · rintro ⟨noHard, noSentinel, notFuture, inRange⟩ anomaly holds implausible
    cases anomaly with
    | sentinelValue =>
        rcases holds with hard | hit
        · rw [noHard] at hard
          cases hard
        · rw [noSentinel] at hit
          cases hit
    | obviousFuture =>
        rw [AnomalyHolds, notFuture] at holds
        cases holds
    | outsideAutomaticRange =>
        rw [AnomalyHolds, inRange] at holds
        cases holds
    | missingOffset => cases implausible
    | quickTimeEpochSemanticUncertainty => cases implausible
    | invalidCompanion => cases implausible

theorem finishCandidate_confidence :
    (finishCandidate context (.fromRules context.sentinelRules) flags work).1.confidence =
      settledConfidence (work.conflicted || flags.globalConflict) (workAnomalies context work)
        work.baseConfidence := by
  simp only [finishCandidate, workAnomalies, canonicalWork]

theorem finishCandidate_high_iff :
    (finishCandidate context (.fromRules context.sentinelRules) flags work).1.confidence = .high ↔
      (work.conflicted || flags.globalConflict) = false ∧
        PlausibleTime context work.timestamp ∧ work.baseConfidence = .high := by
  rw [finishCandidate_confidence, settledConfidence_eq_high, workAnomalies_quiet]

theorem finishCandidate_gate :
    (finishCandidate context (.fromRules context.sentinelRules) flags work).1.evidenceGate =
      evidenceGate
        (finishCandidate context (.fromRules context.sentinelRules) flags work).1.confidence
        work.timestamp (workAnomalies context work) flags work.allSourcesVerified := by
  rw [finishCandidate_confidence]
  simp only [finishCandidate, workAnomalies, canonicalWork]

/-- Work is eligible when it is ready and the context finds it plausible. -/
theorem finishCandidate_eligible_iff :
    (finishCandidate context (.fromRules context.sentinelRules) flags work).1.evidenceGate =
        .eligible ↔
      ReadyWork flags work ∧ PlausibleTime context work.timestamp := by
  rw [finishCandidate_gate]
  constructor
  · intro eligible
    have gate := evidenceGate_eligible eligible
    obtain ⟨unconflicted, sensible, high⟩ := finishCandidate_high_iff.mp gate.high
    have companions := gate.validCompanions
    have epoch := gate.noEpochDoubt
    rw [mem_workAnomalies] at companions epoch
    exact ⟨⟨high, gate.instant, (Bool.or_eq_false_iff.mp unconflicted).1,
      Bool.not_eq_true _ ▸ companions, epoch, gate.verified, gate.noConflict, gate.validEvidence,
      gate.trusted⟩, sensible⟩
  · rintro ⟨ready, sensible⟩
    have quiet := List.any_eq_false.mp (workAnomalies_quiet.mpr sensible)
    apply evidenceGate_of_open
    refine
      { high := finishCandidate_high_iff.mpr ⟨?_, sensible, ready.high⟩
        instant := ready.instant
        noConflict := ready.noConflict
        noSentinel := fun here => quiet _ here rfl
        notFuture := fun here => quiet _ here rfl
        inRange := fun here => quiet _ here rfl
        noEpochDoubt := fun here => ready.noEpochDoubt (mem_workAnomalies.mp here)
        validCompanions := fun here => ?_
        validEvidence := ready.validEvidence
        trusted := ready.trusted
        verified := ready.verified }
    · rw [ready.unconflicted, ready.noConflict]
      rfl
    · have invalid : work.invalidCompanion = true := mem_workAnomalies.mp here
      rw [ready.validCompanions] at invalid
      cases invalid

end Finish

/-! ## The last pass -/

/-- The last pass changes gates only, and never opens one. -/
def OnlyBlocks (before after : TimeCandidate) : Prop :=
  ∃ gate, after = { before with evidenceGate := gate } ∧
    (gate = .eligible → before.evidenceGate = .eligible)

theorem addGateBlocker_ne_eligible (gate : EvidenceGateDecision) (blocker : EvidenceGateBlocker) :
    addGateBlocker gate blocker ≠ .eligible := by
  cases gate <;> simp [addGateBlocker]

theorem mem_foldl_blockNear {pairs : List (List HighCandidate)} {candidates : List TimeCandidate}
    {after : TimeCandidate} (member : after ∈ pairs.foldl blockNearCandidatePair candidates) :
    ∃ before ∈ candidates, OnlyBlocks before after := by
  induction pairs generalizing candidates with
  | nil => exact ⟨after, member, after.evidenceGate, rfl, id⟩
  | cons pair rest ih =>
      obtain ⟨middle, hmiddle, gate, rfl, opens⟩ := ih member
      obtain ⟨index, inside, found⟩ := List.mem_iff_getElem.mp hmiddle
      rw [blockNearCandidatePair, List.length_mapIdx] at inside
      simp only [blockNearCandidatePair, List.getElem_mapIdx] at found
      refine ⟨candidates[index], List.getElem_mem inside, gate, ?_, fun open' => ?_⟩
      · rw [← found]
        split <;> rfl
      · have openMiddle := opens open'
        rw [← found] at openMiddle
        split at openMiddle
        · exact absurd openMiddle (addGateBlocker_ne_eligible _ _)
        · exact openMiddle

theorem blockEqualRankNearAmbiguity_fst (candidates : List TimeCandidate)
    (context : PolicyContext) :
    (blockEqualRankNearAmbiguity candidates context).1 =
      (ambiguousPairs candidates context).foldl blockNearCandidatePair candidates := rfl

theorem mem_sortCandidates {candidates : List TimeCandidate} {candidate : TimeCandidate} :
    candidate ∈ sortCandidates candidates ↔ candidate ∈ candidates :=
  List.mem_insertionSort _

theorem mem_sortedCandidates {sources : List EvidenceSource} {context : PolicyContext}
    {candidate : TimeCandidate} (member : candidate ∈ sortedCandidates sources context) :
    ∃ before ∈ (builtCandidates sources context).1, OnlyBlocks before candidate := by
  rw [sortedCandidates, mem_sortCandidates, blockedCandidates,
    blockEqualRankNearAmbiguity_fst] at member
  exact mem_foldl_blockNear member

/-- The candidates of an analysis within the limits; beyond them there are none. -/
theorem mem_candidates {sources : List EvidenceSource} {context : PolicyContext}
    {candidate : TimeCandidate}
    (member : candidate ∈ (analyzeTimestampEvidence sources context).candidates) :
    aggregateWithinLimits sources context = true ∧ candidate ∈ sortedCandidates sources context := by
  by_cases within : aggregateWithinLimits sources context = true
  · rw [analyzeTimestampEvidence_eq within] at member
    dsimp only at member
    exact ⟨within, member⟩
  · rw [analyzeTimestampEvidence, if_pos (by simpa using within)] at member
    cases member

/-! ## The choice -/

theorem foldl_betterCandidate_eligible {entries : List (TimeCandidate × Nat)}
    {start : Option (TimeCandidate × Nat)} {chosen : TimeCandidate × Nat}
    (found : entries.foldl (betterCandidate true) start = some chosen) :
    start = some chosen ∨ (chosen ∈ entries ∧ chosen.1.evidenceGate = .eligible) := by
  induction entries generalizing start with
  | nil => exact Or.inl found
  | cons entry rest ih =>
      rw [List.foldl_cons] at found
      rcases ih found with kept | ⟨later, eligible⟩
      · unfold betterCandidate at kept
        split at kept
        · exact Or.inl kept
        · rename_i open'
          have eligible : entry.1.evidenceGate = .eligible := by simpa using open'
          split at kept
          · split at kept
            · cases kept
              exact Or.inr ⟨List.mem_cons_self, eligible⟩
            · exact Or.inl kept
          · cases kept
            exact Or.inr ⟨List.mem_cons_self, eligible⟩
      · exact Or.inr ⟨List.mem_cons_of_mem entry later, eligible⟩

theorem isSome_foldl_betterCandidate {entries : List (TimeCandidate × Nat)}
    {start : Option (TimeCandidate × Nat)} (found : start.isSome = true ∨
      ∃ entry ∈ entries, entry.1.evidenceGate = .eligible) :
    (entries.foldl (betterCandidate true) start).isSome = true := by
  induction entries generalizing start with
  | nil =>
      rcases found with here | ⟨entry, member, _⟩
      · exact here
      · cases member
  | cons entry rest ih =>
      rw [List.foldl_cons]
      apply ih
      unfold betterCandidate
      split
      · rename_i skipped
        refine found.imp_right ?_
        rintro ⟨other, member, eligible⟩
        rcases List.mem_cons.mp member with rfl | later
        · exact absurd eligible skipped.2
        · exact ⟨other, later, eligible⟩
      · left
        cases start with
        | none => rfl
        | some current =>
            dsimp only
            split <;> rfl

/-- Without a global conflict an eligible candidate makes the decision eligible. -/
theorem exists_decideCandidates_eligible {candidates : List TimeCandidate}
    {candidate : TimeCandidate} (member : candidate ∈ candidates)
    (eligible : candidate.evidenceGate = .eligible) :
    ∃ index, decideCandidates candidates false = .evidenceEligible index := by
  obtain ⟨index, located⟩ := List.mem_iff_getElem?.mp member
  have chosen : (candidates.zipIdx.foldl (betterCandidate true) none).isSome = true :=
    isSome_foldl_betterCandidate
      (Or.inr ⟨(candidate, index), List.mem_zipIdx_iff_getElem?.mpr located, eligible⟩)
  obtain ⟨entry, best⟩ := Option.isSome_iff_exists.mp chosen
  refine ⟨entry.2, ?_⟩
  rw [decideCandidates, if_neg (by decide), if_neg (List.ne_nil_of_mem member),
    bestCandidateIndex, best]
  rfl

/-- The chosen index of an eligible decision points at an eligible candidate. -/
theorem decideCandidates_eligible {candidates : List TimeCandidate} {globalConflict : Bool}
    {index : Nat} (decided : decideCandidates candidates globalConflict = .evidenceEligible index) :
    globalConflict = false ∧ ∃ candidate, candidates[index]? = some candidate ∧
      candidate.evidenceGate = .eligible := by
  unfold decideCandidates at decided
  split at decided
  · cases decided
  rename_i noConflict
  split at decided
  · cases decided
  split at decided
  · rename_i chosen found
    cases decided
    refine ⟨by simpa using noConflict, ?_⟩
    rw [bestCandidateIndex, Option.map_eq_some_iff] at found
    obtain ⟨entry, best, rfl⟩ := found
    rcases foldl_betterCandidate_eligible best with none | ⟨member, eligible⟩
    · cases none
    · exact ⟨entry.1, List.mem_zipIdx_iff_getElem?.mp member, eligible⟩
  · cases decided

end Guiying.Time.Policy
