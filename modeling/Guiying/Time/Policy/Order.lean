import Guiying.Time.Policy.Reindex
import Guiying.Time.Policy.Soundness

/-!
# The order of the sources does not matter

The verdict is compared with every observation index erased. What the visit
contributes is then the same up to order, the flags read only which codes and
which values are present, and a conflict flag that depends on the order is hidden
behind the global conflict that comes with it.
-/

namespace Guiying.Time.Policy

open Guiying.Foundation Guiying.Foundation.SortedSet Guiying.Foundation.MachineInt
open Guiying.Metadata

/-! ## Issue codes -/

/-- The codes of the issues of one source, apart from a repeated key. -/
def sourceCodes (source : EvidenceSource) : List PolicyIssueCode :=
  (sourceIssues 0 false source).map (·.code)

theorem map_code_relabel (number : Nat → Nat) (key : SourceKey → SourceKey)
    (issues : List PolicyIssue) :
    (issues.map (relabelIssue number key)).map (·.code) = issues.map (·.code) := by
  rw [List.map_map]
  rfl

/-- The codes of a source depend neither on its place nor on its key. -/
theorem map_code_sourceIssues (start : Nat) (key : SourceKey → SourceKey)
    (source : EvidenceSource) :
    (sourceIssues start false (rekeySource key source)).map (·.code) = sourceCodes source := by
  rw [sourceIssues_relabel, map_code_relabel, sourceCodes]

theorem mem_codes_sourceIssues {start : Nat} {duplicate : Bool} {source : EvidenceSource}
    {code : PolicyIssueCode} :
    code ∈ (sourceIssues start duplicate source).map (·.code) ↔
      (duplicate = true ∧ code = .duplicateSourceIdentity) ∨ code ∈ sourceCodes source := by
  rw [← map_code_sourceIssues start id source, rekeySource_id]
  cases duplicate with
  | false => simp
  | true => simp [sourceIssues, identityIssues, sourceIssue]

/-- Which codes the visit raises: those of each source, and one for a repeated key. -/
theorem mem_codes_visitedIssues {start : Nat} {seen : Finset SourceKey}
    {sources : List EvidenceSource} {code : PolicyIssueCode} :
    code ∈ (visitedIssues start seen sources).map (·.code) ↔
      (RepeatsKey seen sources ∧ code = .duplicateSourceIdentity) ∨
        ∃ source ∈ sources, code ∈ sourceCodes source := by
  induction sources generalizing start seen with
  | nil => simp [visitedIssues, RepeatsKey]
  | cons source rest ih =>
      rw [visitedIssues, List.map_append, List.mem_append, mem_codes_sourceIssues, ih,
        repeatsKey_cons, decide_eq_true_eq]
      simp only [List.mem_cons, exists_eq_or_imp]
      tauto

/-- The flags depend on which codes and which values the visit found. -/
theorem settledFlags_congr {sources other : List EvidenceSource} {context : PolicyContext}
    (untrusted : (visitSources sources).extractionUntrusted =
      (visitSources other).extractionUntrusted)
    (rejected : (visitSources sources).invalidEvidence = (visitSources other).invalidEvidence)
    (codes : ∀ code, code ∈ (visitedIssues 0 ∅ sources).map (·.code) ↔
      code ∈ (visitedIssues 0 ∅ other).map (·.code))
    (disagreement : Disagreement context (visitedAtoms 0 sources) ↔
      Disagreement context (visitedAtoms 0 other)) :
    settledFlags sources context = settledFlags other context := by
  have conflict : (settledFlags sources context).globalConflict =
      (settledFlags other context).globalConflict := by
    rw [Bool.eq_iff_iff, settledFlags_globalConflict, settledFlags_globalConflict, untrusted,
      disagreement]
    simp only [codes]
  have invalid : (settledFlags sources context).invalidEvidence =
      (settledFlags other context).invalidEvidence := by
    rw [Bool.eq_iff_iff, settledFlags_invalidEvidence, settledFlags_invalidEvidence, rejected]
    simp only [codes]
  calc settledFlags sources context
      = ⟨(settledFlags sources context).globalConflict,
          (settledFlags sources context).invalidEvidence,
          (visitSources sources).extractionUntrusted⟩ := rfl
    _ = ⟨(settledFlags other context).globalConflict,
          (settledFlags other context).invalidEvidence,
          (visitSources other).extractionUntrusted⟩ := by rw [conflict, invalid, untrusted]
    _ = settledFlags other context := rfl

section Permutation

variable {sources other : List EvidenceSource} (perm : sources.Perm other)
include perm

theorem mem_codes_visitedIssues_perm {code : PolicyIssueCode} :
    code ∈ (visitedIssues 0 ∅ sources).map (·.code) ↔
      code ∈ (visitedIssues 0 ∅ other).map (·.code) := by
  simp only [mem_codes_visitedIssues, repeatsKey_empty, (perm.map _).nodup_iff, perm.mem_iff]

/-- The same atoms are visited, up to their order and their indices. -/
theorem visitedAtoms_perm :
    ((visitedAtoms 0 sources).map Atom.unindexed).Perm
      ((visitedAtoms 0 other).map Atom.unindexed) := by
  rw [map_view_visitedAtoms fun _ _ => rfl, map_view_visitedAtoms fun _ _ => rfl]
  exact perm.flatMap_right _

/-- Which values the visit found, whatever the order. -/
theorem visitedAtoms_essenceSubset :
    EssenceSubset (visitedAtoms 0 sources) (visitedAtoms 0 other) := by
  intro atom member
  have image : essence atom ∈ ((visitedAtoms 0 other).map Atom.unindexed).map essence := by
    refine ((visitedAtoms_perm perm).map essence).mem_iff.mp ?_
    rw [List.map_map]
    exact List.mem_map_of_mem member
  rw [List.map_map] at image
  exact List.mem_map.mp image

theorem disagreement_perm {context : PolicyContext} :
    Disagreement context (visitedAtoms 0 sources) ↔ Disagreement context (visitedAtoms 0 other) :=
  ⟨fun apart => apart.mono (visitedAtoms_essenceSubset perm).values,
    fun apart => apart.mono (visitedAtoms_essenceSubset perm.symm).values⟩

theorem extractionUntrusted_perm :
    (visitSources sources).extractionUntrusted = (visitSources other).extractionUntrusted := by
  rw [Bool.eq_iff_iff, visitSources_extractionUntrusted, visitSources_extractionUntrusted]
  simp only [(perm.map _).nodup_iff, perm.mem_iff]

/-- The gates of both analyses see the same flags. -/
theorem settledFlags_perm (context : PolicyContext) :
    settledFlags sources context = settledFlags other context := by
  refine settledFlags_congr (extractionUntrusted_perm perm) ?_
    (fun code => mem_codes_visitedIssues_perm perm) (disagreement_perm perm)
  rw [Bool.eq_iff_iff, visitSources_invalidEvidence, visitSources_invalidEvidence,
    List.any_eq_true, List.any_eq_true]
  simp only [perm.mem_iff]

theorem aggregateWithinLimits_perm (context : PolicyContext) :
    aggregateWithinLimits sources context = aggregateWithinLimits other context := by
  rw [Bool.eq_iff_iff, aggregateWithinLimits_iff, aggregateWithinLimits_iff, perm.length_eq,
    (perm.map sourceWeight).sum_eq]
  simp only [perm.mem_iff]

end Permutation

/-! ## Settled atoms -/

/-- An atom as a gate sees it: a global conflict hides its own conflict flag. -/
def gateView (globalConflict : Bool) (atom : Atom) : Atom :=
  { atom with observationIndices := [], conflicted := atom.conflicted || globalConflict }

/-- The conflict passes change nothing a gate can see. -/
theorem map_gateView_settledAtoms (sources : List EvidenceSource) (context : PolicyContext) :
    (settledAtoms sources context).map
        (gateView (settledFlags sources context).globalConflict) =
      (visitedAtoms 0 sources).map (gateView (settledFlags sources context).globalConflict) := by
  have pass := conflictPasses_pass (visitSources sources) context
  rw [visitSources_atoms] at pass
  cases conflict : (settledFlags sources context).globalConflict with
  | true =>
      have hidden : gateView true = gateView true ∘ clearConflict := by
        funext atom
        simp [gateView, clearConflict]
      rw [hidden, ← List.map_map, ← List.map_map]
      exact congrArg (List.map (gateView true)) pass.sameAtoms
  | false =>
      rw [Bool.eq_false_iff, ne_eq, settledFlags_globalConflict, not_or, not_or] at conflict
      exact congrArg (fun state => state.1.map (gateView false)) (pass.quiet conflict.2.2)

theorem settledAtoms_perm {sources other : List EvidenceSource} (perm : sources.Perm other)
    (context : PolicyContext) :
    ((settledAtoms sources context).map
        (gateView (settledFlags sources context).globalConflict)).Perm
      ((settledAtoms other context).map
        (gateView (settledFlags sources context).globalConflict)) := by
  rw [map_gateView_settledAtoms, settledFlags_perm perm, map_gateView_settledAtoms]
  have same := (visitedAtoms_perm perm).map
    (gateView (settledFlags other context).globalConflict)
  rwa [List.map_map, List.map_map] at same

/-! ## Candidates -/

/-- A candidate with its indices erased. -/
def withoutIndices (candidate : TimeCandidate) : TimeCandidate :=
  { candidate with observationIndices := [] }

/-- A candidate without its indices, its supporting sources seen through `support`. -/
def forget (support : List SourceKey → List SourceKey) (candidate : TimeCandidate) :
    TimeCandidate :=
  { candidate with
    supportingSources := support candidate.supportingSources
    observationIndices := [] }

theorem withoutIndices_eq : withoutIndices = forget id := rfl

/-- Two lists show the same values to a view, in any order and number. -/
def SameViews {α β : Type*} (view : α → β) (first second : List α) : Prop :=
  ∀ value, value ∈ first.map view ↔ value ∈ second.map view

namespace SameViews

variable {α β γ : Type*} {view : α → β} {first second : List α}

theorem of_perm (perm : (first.map view).Perm (second.map view)) : SameViews view first second :=
  fun _ => perm.mem_iff

/-- What some item shows to a view, some item of the other list shows. -/
theorem exists_iff (same : SameViews view first second) (test : β → Prop) :
    (∃ item ∈ first, test (view item)) ↔ ∃ item ∈ second, test (view item) := by
  have moved : ∀ list : List α, (∃ item ∈ list, test (view item)) ↔
      ∃ seen ∈ list.map view, test seen := by simp
  rw [moved, moved]
  exact exists_congr fun seen => and_congr_left' (same seen)

/-- What can be read off a view is the same too. -/
theorem read (same : SameViews view first second) (further : β → γ) :
    SameViews (fun item => further (view item)) first second := by
  intro value
  rw [List.mem_map, List.mem_map]
  exact same.exists_iff fun seen => further seen = value

theorem any_eq (same : SameViews view first second) (test : β → Bool) :
    (first.any fun item => test (view item)) = second.any fun item => test (view item) := by
  rw [Bool.eq_iff_iff, List.any_eq_true, List.any_eq_true]
  exact same.exists_iff fun seen => test seen = true

theorem all_eq (same : SameViews view first second) (test : β → Bool) :
    (first.all fun item => test (view item)) = second.all fun item => test (view item) := by
  have moved : ∀ list : List α, (list.all fun item => test (view item)) = true ↔
      ∀ seen ∈ list.map view, test seen = true := by simp
  rw [Bool.eq_iff_iff, moved, moved]
  exact forall_congr' fun seen => imp_congr_left (same seen)

theorem filter (same : SameViews view first second) (test : β → Bool) :
    SameViews view (first.filter fun item => test (view item))
      (second.filter fun item => test (view item)) := by
  intro value
  have moved : ∀ list : List α, value ∈ (list.filter fun item => test (view item)).map view ↔
      value ∈ list.map view ∧ test value = true := by
    intro list
    simp only [List.mem_map, List.mem_filter]
    constructor
    · rintro ⟨item, ⟨member, accepted⟩, rfl⟩
      exact ⟨⟨item, member, rfl⟩, accepted⟩
    · rintro ⟨⟨item, member, rfl⟩, accepted⟩
      exact ⟨item, ⟨member, accepted⟩, rfl⟩
  rw [moved, moved, same]

end SameViews

theorem strongestConfidence_congr {first second : List Atom}
    (same : SameViews (·.baseConfidence) first second) :
    strongestConfidence first = strongestConfidence second := by
  have bounds : ∀ (list : List Atom) (bound : Nat),
      confidenceRank (strongestConfidence list) ≤ bound ↔
        ∀ level ∈ list.map (·.baseConfidence), confidenceRank level ≤ bound := by
    intro list bound
    rw [confidenceRank_strongestConfidence_le]
    simp
  refine confidenceRank_injective (le_antisymm ?_ ?_)
  · rw [bounds]
    simp only [same _]
    exact (bounds second _).mp le_rfl
  · rw [bounds]
    simp only [← same _]
    exact (bounds first _).mp le_rfl

/-- An atom as a gate sees it, its source seen through `key`. -/
def keyView (key : SourceKey → SourceKey) (globalConflict : Bool) (atom : Atom) : Atom :=
  { gateView globalConflict atom with sourceKey := key atom.sourceKey }

section Candidates

variable {context : PolicyContext} {sentinelIndex : SentinelIndex} {flags : AnalysisFlags}
  {first second : List Atom}

/-- Merged work as a gate sees it. -/
def gateWork (globalConflict : Bool) (work : CandidateWork) : CandidateWork :=
  { canonicalWork work with
    observations := []
    conflicted := work.conflicted || globalConflict }

theorem finishCandidate_gateWork (support : List SourceKey → List SourceKey)
    (work : CandidateWork) :
    forget support (finishCandidate context sentinelIndex flags work).1 =
      { forget support (finishCandidate context sentinelIndex flags
          { gateWork flags.globalConflict work with sources := [] }).1 with
        supportingSources := support (sortDedup work.sources) } := by
  simp only [finishCandidate, forget, gateWork, canonicalWork, candidateAnomalies,
    sortDedup_idem, Bool.or_assoc, Bool.or_self]

/-- What `support` keeps of a list of sources depends only on the keys seen through `key`. -/
def Blurs (key : SourceKey → SourceKey) (support : List SourceKey → List SourceKey) : Prop :=
  ∀ first second, SameViews key first second →
    support (sortDedup first) = support (sortDedup second)

theorem blurs_id : Blurs id id := fun first second same => by
  refine sortDedup_congr fun value => ?_
  have seen := same value
  rwa [List.map_id, List.map_id] at seen

variable {key : SourceKey → SourceKey} {support : List SourceKey → List SourceKey}
  (blurs : Blurs key support)
include blurs

/-- Merged atoms that a gate sees alike finish as the same candidate. -/
theorem finishCandidate_congr {timestamp : NormalizedTimestamp}
    (same : SameViews (keyView key flags.globalConflict) first second) :
    forget support (finishCandidate context sentinelIndex flags (mergedWork timestamp first)).1 =
      forget support
        (finishCandidate context sentinelIndex flags (mergedWork timestamp second)).1 := by
  have kinds := sortDedup_congr (same.read (·.kind))
  have lineages := sortDedup_congr (same.read (·.lineageKey))
  have confidence := strongestConfidence_congr (same.read (·.baseConfidence))
  have companions := same.any_eq (·.invalidCompanion)
  have verified := same.all_eq (·.sourceVerified)
  have sources : support (sortDedup (first.map (·.sourceKey))) =
      support (sortDedup (second.map (·.sourceKey))) := by
    refine blurs _ _ fun value => ?_
    rw [List.map_map, List.map_map]
    exact same.read (·.sourceKey) value
  have conflicted : (first.any (·.conflicted) || flags.globalConflict) =
      (second.any (·.conflicted) || flags.globalConflict) := by
    cases loud : flags.globalConflict with
    | true => rw [Bool.or_true, Bool.or_true]
    | false =>
        have alike := same.any_eq (·.conflicted)
        simpa only [keyView, gateView, loud, Bool.or_false] using alike
  have alike : gateWork flags.globalConflict (mergedWork timestamp first) =
      { gateWork flags.globalConflict (mergedWork timestamp second) with
        sources := sortDedup (first.map (·.sourceKey)) } := by
    simp only [keyView, gateView] at kinds lineages confidence companions verified
    simp only [gateWork, canonicalWork, mergedWork, kinds, lineages, confidence,
      companions, verified, conflicted]
  rw [finishCandidate_gateWork, finishCandidate_gateWork support (mergedWork timestamp second),
    alike, mergedWork, mergedWork, sources]

/-- Atoms a gate sees alike build the same candidates. -/
theorem buildCandidates_congr
    (same : SameViews (keyView key flags.globalConflict) first second) :
    (buildCandidates first context sentinelIndex flags).1.map (forget support) =
      (buildCandidates second context sentinelIndex flags).1.map (forget support) := by
  have times : sortDedup (first.map (·.timestamp)) = sortDedup (second.map (·.timestamp)) :=
    sortDedup_congr (same.read (·.timestamp))
  simp only [buildCandidates, mergeAtoms_values, List.map_map, times]
  refine List.map_congr_left fun timestamp _ => ?_
  exact finishCandidate_congr blurs (same.filter fun atom => timestamp = atom.timestamp)

end Candidates

theorem builtCandidates_perm {sources other : List EvidenceSource} (perm : sources.Perm other)
    (context : PolicyContext) :
    (builtCandidates sources context).1.map withoutIndices =
      (builtCandidates other context).1.map withoutIndices := by
  have atoms := settledAtoms_perm perm context
  rw [builtCandidates, builtCandidates, ← settledFlags_perm perm, withoutIndices_eq]
  exact buildCandidates_congr blurs_id (.of_perm atoms)

/-! ## Near candidates -/

def HighCandidate.forget (support : List SourceKey → List SourceKey) (high : HighCandidate) :
    HighCandidate :=
  { high with candidate := Policy.forget support high.candidate }

def forgetEntry (support : List SourceKey → List SourceKey) (entry : TimeCandidate × Nat) :
    TimeCandidate × Nat :=
  (forget support entry.1, entry.2)

section Near

variable (support : List SourceKey → List SourceKey) (candidates : List TimeCandidate)

theorem zipIdx_forget :
    (candidates.map (forget support)).zipIdx =
      candidates.zipIdx.map (forgetEntry support) := by
  rw [List.zipIdx_map]
  rfl

theorem highCandidate_forget (entry : TimeCandidate × Nat) :
    highCandidate (forgetEntry support entry) =
      (highCandidate entry).map (HighCandidate.forget support) := by
  unfold highCandidate
  by_cases high : entry.1.confidence = .high
  · rw [if_pos (show (forgetEntry support entry).1.confidence = .high from high), if_pos high,
      Option.map_map]
    rfl
  · rw [if_neg (show ¬ (forgetEntry support entry).1.confidence = .high from high),
      if_neg high]
    rfl

theorem nearPairs_forget (tolerance : Int) (instants : List (Int × List HighCandidate)) :
    nearPairs tolerance (instants.map fun entry =>
        (entry.1, entry.2.map (HighCandidate.forget support))) =
      (nearPairs tolerance instants).map (List.map (HighCandidate.forget support)) := by
  induction instants with
  | nil => rfl
  | cons left rest ih =>
      cases rest with
      | nil => rfl
      | cons right rest =>
          simp only [List.map_cons, nearPairs] at ih ⊢
          split
          · rw [ih, List.map_cons, List.map_append]
          · exact ih

theorem ambiguousPairs_forget (context : PolicyContext) :
    ambiguousPairs (candidates.map (forget support)) context =
      (ambiguousPairs candidates context).map (List.map (HighCandidate.forget support)) := by
  have high : (candidates.map (forget support)).zipIdx.filterMap highCandidate =
      (candidates.zipIdx.filterMap highCandidate).map (HighCandidate.forget support) := by
    rw [zipIdx_forget, List.filterMap_map, List.map_filterMap]
    exact List.filterMap_congr fun entry _ => highCandidate_forget support entry
  simp only [ambiguousPairs, high, OrderedMap.values, OrderedMap.groupBy_map_entries,
    List.map_map, List.flatMap_map, List.map_flatMap, Function.comp_apply,
    nearPairs_forget]
  rfl

theorem blockNearCandidatePair_forget (pair : List HighCandidate) :
    blockNearCandidatePair (candidates.map (forget support))
        (pair.map (HighCandidate.forget support)) =
      (blockNearCandidatePair candidates pair).map (forget support) := by
  refine List.ext_getElem (by simp [blockNearCandidatePair]) fun index inside _ => ?_
  simp only [blockNearCandidatePair, List.getElem_mapIdx, List.getElem_map, List.map_map]
  have indices : index ∈ pair.map ((fun high => high.index) ∘ (HighCandidate.forget support)) ↔
      index ∈ pair.map fun high => high.index := Iff.rfl
  by_cases near : index ∈ pair.map fun high => high.index
  · rw [if_pos (indices.mpr near), if_pos near]
    rfl
  · rw [if_neg (mt indices.mp near), if_neg near]

theorem foldl_blockNear_forget (pairs : List (List HighCandidate)) :
    (pairs.map (List.map (HighCandidate.forget support))).foldl blockNearCandidatePair
        (candidates.map (forget support)) =
      (pairs.foldl blockNearCandidatePair candidates).map (forget support) := by
  induction pairs generalizing candidates with
  | nil => rfl
  | cons pair rest ih =>
      rw [List.map_cons, List.foldl_cons, blockNearCandidatePair_forget, ih,
        List.foldl_cons]

theorem blockEqualRankNearAmbiguity_forget (context : PolicyContext) :
    (blockEqualRankNearAmbiguity (candidates.map (forget support)) context).1 =
      (blockEqualRankNearAmbiguity candidates context).1.map (forget support) := by
  rw [blockEqualRankNearAmbiguity, ambiguousPairs_forget]
  exact foldl_blockNear_forget support candidates _

theorem sortCandidates_forget :
    sortCandidates (candidates.map (forget support)) =
      (sortCandidates candidates).map (forget support) :=
  (List.map_insertionSort _ _ (forget support) _ fun _ _ _ _ => Iff.rfl).symm

/-! ## The decision -/

theorem betterCandidate_forget (eligibleOnly : Bool) (best : Option (TimeCandidate × Nat))
    (entry : TimeCandidate × Nat) :
    betterCandidate eligibleOnly (best.map (forgetEntry support)) (forgetEntry support entry) =
      (betterCandidate eligibleOnly best entry).map (forgetEntry support) := by
  unfold betterCandidate
  by_cases skipped : eligibleOnly = true ∧ entry.1.evidenceGate ≠ .eligible
  · rw [if_pos (show eligibleOnly = true ∧ (forgetEntry support entry).1.evidenceGate ≠ .eligible
      from skipped), if_pos skipped]
  · rw [if_neg (show ¬ (eligibleOnly = true ∧
      (forgetEntry support entry).1.evidenceGate ≠ .eligible) from skipped), if_neg skipped]
    cases best with
    | none => rfl
    | some current =>
        have same : candidatePreference (forgetEntry support entry).1
            (forgetEntry support current).1 = candidatePreference entry.1 current.1 := rfl
        simp only [Option.map_some, same]
        split <;> rfl

theorem foldl_betterCandidate_forget (eligibleOnly : Bool)
    (entries : List (TimeCandidate × Nat)) (best : Option (TimeCandidate × Nat)) :
    (entries.map (forgetEntry support)).foldl (betterCandidate eligibleOnly)
        (best.map (forgetEntry support)) =
      (entries.foldl (betterCandidate eligibleOnly) best).map (forgetEntry support) := by
  induction entries generalizing best with
  | nil => rfl
  | cons entry rest ih =>
      rw [List.map_cons, List.foldl_cons, betterCandidate_forget, ih, List.foldl_cons]

theorem bestCandidateIndex_forget (eligibleOnly : Bool) :
    bestCandidateIndex (candidates.map (forget support)) eligibleOnly =
      bestCandidateIndex candidates eligibleOnly := by
  have start := foldl_betterCandidate_forget support eligibleOnly candidates.zipIdx none
  rw [Option.map_none] at start
  rw [bestCandidateIndex, zipIdx_forget, start, Option.map_map]
  rfl

theorem decideCandidates_forget (globalConflict : Bool) :
    decideCandidates (candidates.map (forget support)) globalConflict =
      decideCandidates candidates globalConflict := by
  simp only [decideCandidates, bestCandidateIndex_forget, List.map_eq_nil_iff]

end Near

/-- Built candidates that look alike stay alike to the end. -/
theorem sortedCandidates_forget {support : List SourceKey → List SourceKey}
    {sources other : List EvidenceSource} {context : PolicyContext}
    (built : (builtCandidates sources context).1.map (forget support) =
      (builtCandidates other context).1.map (forget support)) :
    (sortedCandidates sources context).map (forget support) =
      (sortedCandidates other context).map (forget support) := by
  have blocked : ∀ supplied, (sortedCandidates supplied context).map (forget support) =
      sortCandidates (blockEqualRankNearAmbiguity
        ((builtCandidates supplied context).1.map (forget support)) context).1 := by
    intro supplied
    rw [blockEqualRankNearAmbiguity_forget, sortCandidates_forget]
    rfl
  rw [blocked, blocked, built]

theorem sortedCandidates_perm {sources other : List EvidenceSource} (perm : sources.Perm other)
    (context : PolicyContext) :
    (sortedCandidates sources context).map withoutIndices =
      (sortedCandidates other context).map withoutIndices := by
  rw [withoutIndices_eq]
  exact sortedCandidates_forget (builtCandidates_perm perm context)

/-- Candidates that look alike are decided alike. -/
theorem decideCandidates_congr {support : List SourceKey → List SourceKey}
    {first second : List TimeCandidate}
    (same : first.map (forget support) = second.map (forget support)) (globalConflict : Bool) :
    decideCandidates first globalConflict = decideCandidates second globalConflict := by
  rw [← decideCandidates_forget support first, same, decideCandidates_forget]

/-- Every order of the sources leads to the same candidates and the same decision. -/
theorem analyzeTimestampEvidence_perm {sources other : List EvidenceSource}
    (perm : sources.Perm other) (context : PolicyContext) :
    (analyzeTimestampEvidence sources context).candidates.map withoutIndices =
        (analyzeTimestampEvidence other context).candidates.map withoutIndices ∧
      (analyzeTimestampEvidence sources context).decision =
        (analyzeTimestampEvidence other context).decision := by
  by_cases within : aggregateWithinLimits sources context = true
  · have otherWithin := within
    rw [aggregateWithinLimits_perm perm] at otherWithin
    rw [analyzeTimestampEvidence_eq within, analyzeTimestampEvidence_eq otherWithin]
    dsimp only
    have alike := sortedCandidates_perm perm context
    refine ⟨alike, ?_⟩
    rw [withoutIndices_eq] at alike
    rw [decideCandidates_congr alike, settledFlags_perm perm]
  · rw [Bool.not_eq_true] at within
    have otherExceeds := within
    rw [aggregateWithinLimits_perm perm] at otherExceeds
    rw [analyzeTimestampEvidence, analyzeTimestampEvidence, if_pos within, if_pos otherExceeds]
    exact ⟨rfl, rfl⟩

theorem analyzeTimestampEvidence_perm_swap :
    (analyzeTimestampEvidence [sampleSource, { sampleSource with sourceKey := ⟨.filled 3⟩ }]
        sampleContext).candidates.map withoutIndices =
      (analyzeTimestampEvidence [{ sampleSource with sourceKey := ⟨.filled 3⟩ }, sampleSource]
        sampleContext).candidates.map withoutIndices ∧
    (analyzeTimestampEvidence [sampleSource, { sampleSource with sourceKey := ⟨.filled 3⟩ }]
        sampleContext).decision =
      (analyzeTimestampEvidence [{ sampleSource with sourceKey := ⟨.filled 3⟩ }, sampleSource]
        sampleContext).decision :=
  analyzeTimestampEvidence_perm (.swap _ _ _) sampleContext

end Guiying.Time.Policy
