import Guiying.Time.Policy.Order

/-!
# Copies cannot vote

A copy of a source under a key of its own adds no value, no lineage and no issue
code that was not there before. So the flags, the candidates and the decision
stay as they are, and only the lists of supporters grow. More generally no
number of sources lifts a candidate above the fields that support it.
-/

namespace Guiying.Time.Policy

open Guiying.Foundation Guiying.Foundation.SortedSet Guiying.Foundation.MachineInt
open Guiying.Metadata

/-- A copy of a source: another key, the same lineage, report and binding. -/
def copyOf (key : SourceKey) (source : EvidenceSource) : EvidenceSource :=
  { source with sourceKey := key }

theorem copyOf_eq (key : SourceKey) (source : EvidenceSource) :
    copyOf key source = rekeySource (fun _ => key) source := rfl

/-! ## What a copy contributes -/

theorem sourceCodes_copyOf (key : SourceKey) (source : EvidenceSource) :
    sourceCodes (copyOf key source) = sourceCodes source := by
  rw [sourceCodes, copyOf_eq, map_code_sourceIssues]

theorem visitedAtoms_append (start : Nat) (first second : List EvidenceSource) :
    visitedAtoms start (first ++ second) =
      visitedAtoms start first ++ visitedAtoms (start + fieldTotal first) second := by
  induction first generalizing start with
  | nil => rfl
  | cons source rest ih =>
      have total : fieldTotal (source :: rest) = source.report.fields.length + fieldTotal rest := by
        rw [fieldTotal, List.map_cons, List.sum_cons, fieldTotal]
      rw [List.cons_append, visitedAtoms, visitedAtoms, ih, List.append_assoc, total,
        Nat.add_assoc]

section Copy

variable {sources : List EvidenceSource} {source : EvidenceSource} {key : SourceKey}
  (member : source ∈ sources)

include member in
/-- A view that reads neither keys nor indices sees nothing new in a copy. -/
theorem sameViews_copy {β : Type*} {view : Atom → β}
    (unlabelled : ∀ (number : Nat → Nat) (renamed : SourceKey → SourceKey) (atom : Atom),
      view (atom.relabel number renamed) = view atom) :
    SameViews view (visitedAtoms 0 (sources ++ [copyOf key source])) (visitedAtoms 0 sources) := by
  have copied : (trustedFields 0 (copyOf key source)).1.map view =
      (trustedFields 0 source).1.map view := by
    rw [copyOf_eq, trustedFields_relabel, relabelFound, List.map_map]
    exact List.map_congr_left fun atom _ => unlabelled _ _ atom
  intro value
  rw [map_view_visitedAtoms fun _ => unlabelled _ _, map_view_visitedAtoms fun _ => unlabelled _ _,
    List.flatMap_append, List.mem_append]
  refine or_iff_left_of_imp fun here => ?_
  rw [List.flatMap_singleton, copied] at here
  exact List.mem_flatMap.mpr ⟨source, member, here⟩

include member in
theorem disagreement_copy {context : PolicyContext} :
    Disagreement context (visitedAtoms 0 (sources ++ [copyOf key source])) ↔
      Disagreement context (visitedAtoms 0 sources) := by
  have same : SameViews (fun atom : Atom => (atom.timestamp, atom.kind, atom.lineageKey,
      atom.strong)) (visitedAtoms 0 (sources ++ [copyOf key source])) (visitedAtoms 0 sources) :=
    sameViews_copy member fun _ _ _ => rfl
  have values : ∀ {first second : List Atom},
      (∀ value, value ∈ first.map (fun atom : Atom => (atom.timestamp, atom.kind,
        atom.lineageKey, atom.strong)) → value ∈ second.map fun atom : Atom =>
          (atom.timestamp, atom.kind, atom.lineageKey, atom.strong)) →
        ValueSubset first second := by
    intro first second subset atom found
    obtain ⟨other, present, alike⟩ := List.mem_map.mp (subset _ (List.mem_map_of_mem found))
    simp only [Prod.mk.injEq] at alike
    exact ⟨other, present, alike⟩
  exact ⟨fun apart => apart.mono (values fun value => (same value).mp),
    fun apart => apart.mono (values fun value => (same value).mpr)⟩

theorem nodup_copy (fresh : key ∉ sources.map (·.sourceKey)) :
    ((sources ++ [copyOf key source]).map (·.sourceKey)).Nodup ↔
      (sources.map (·.sourceKey)).Nodup := by
  rw [List.map_append, List.nodup_append]
  simp only [List.map_cons, List.map_nil, List.nodup_singleton, List.mem_singleton, copyOf]
  constructor
  · rintro ⟨distinct, _⟩
    exact distinct
  · intro distinct
    refine ⟨distinct, trivial, fun other present _ same clash => fresh ?_⟩
    rwa [same.symm, ← clash]

include member in
theorem settledFlags_copy (fresh : key ∉ sources.map (·.sourceKey)) (context : PolicyContext) :
    settledFlags (sources ++ [copyOf key source]) context = settledFlags sources context := by
  have absorbed : ∀ {test : EvidenceSource → Prop}, (test (copyOf key source) → test source) →
      ((∃ supplied ∈ sources ++ [copyOf key source], test supplied) ↔
        ∃ supplied ∈ sources, test supplied) := by
    intro test carried
    constructor
    · rintro ⟨supplied, present, found⟩
      rcases List.mem_append.mp present with old | new
      · exact ⟨supplied, old, found⟩
      · rw [List.mem_singleton.mp new] at found
        exact ⟨source, member, carried found⟩
    · rintro ⟨supplied, present, found⟩
      exact ⟨supplied, List.mem_append_left _ present, found⟩
  refine settledFlags_congr ?_ ?_ (fun code => ?_) (disagreement_copy member)
  · rw [Bool.eq_iff_iff, visitSources_extractionUntrusted, visitSources_extractionUntrusted,
      nodup_copy fresh, absorbed fun bad => bad]
  · rw [Bool.eq_iff_iff, visitSources_invalidEvidence, visitSources_invalidEvidence,
      List.any_eq_true, List.any_eq_true]
    exact absorbed fun bad => bad
  · rw [mem_codes_visitedIssues, mem_codes_visitedIssues, repeatsKey_empty, repeatsKey_empty,
      nodup_copy fresh, absorbed fun raised => sourceCodes_copyOf key source ▸ raised]

end Copy

/-! ## Supporters -/

/-- Whatever a gate sees of an atom is seen before and after the conflict passes. -/
theorem sameViews_settledAtoms {β : Type*} (view : Atom → β) (sources : List EvidenceSource)
    (context : PolicyContext) (unmarked : ∀ atom : Atom, view (clearConflict atom) = view atom) :
    SameViews view (settledAtoms sources context) (visitedAtoms 0 sources) := by
  have pass := conflictPasses_pass (visitSources sources) context
  rw [visitSources_atoms] at pass
  have same := congrArg (List.map view) pass.sameAtoms
  rw [List.map_map, List.map_map, show view ∘ clearConflict = view from funext unmarked] at same
  intro value
  rw [← same]
  rfl

theorem one_le_baseConfidence {sources : List EvidenceSource} {atom : Atom}
    (found : atom ∈ visitedAtoms 0 sources) : 1 ≤ confidenceRank atom.baseConfidence := by
  obtain ⟨source, _, start, _, here, _⟩ := mem_visitedAtoms ∅ found
  unfold trustedFields at here
  split at here
  · have level := baseConfidence_ne_conflict here
    generalize atom.baseConfidence = base at level
    cases base <;> first | decide | exact absurd rfl level
  · cases here

theorem finishCandidate_confidence_le (context : PolicyContext) (flags : AnalysisFlags)
    (timestamp : NormalizedTimestamp) (items : List Atom) :
    confidenceRank (finishCandidate context (.fromRules context.sentinelRules) flags
        (mergedWork timestamp items)).1.confidence ≤
      max 1 (confidenceRank (strongestConfidence items)) := by
  rw [finishCandidate_confidence, settledConfidence]
  split
  · exact Nat.zero_le _
  · split
    · exact le_max_left _ _
    · exact le_max_right _ _

/-- A field of some source, read as an atom, that supports a candidate. -/
structure Supports (sources : List EvidenceSource) (candidate : TimeCandidate) (atom : Atom) :
    Prop where
  visited : atom ∈ visitedAtoms 0 sources
  timestamp : candidate.timestamp = atom.timestamp
  source : atom.sourceKey ∈ candidate.supportingSources
  observations : atom.observationIndices ⊆ candidate.observationIndices

section Supporters

variable {sources : List EvidenceSource} {context : PolicyContext} {candidate : TimeCandidate}

section Built

variable (built : candidate ∈ (builtCandidates sources context).1)
include built

/-- The supporters of a built candidate are the keys of the atoms with its timestamp. -/
theorem mem_built_supportingSources {key : SourceKey} :
    key ∈ candidate.supportingSources ↔ ∃ atom ∈ visitedAtoms 0 sources,
      candidate.timestamp = atom.timestamp ∧ atom.sourceKey = key := by
  obtain ⟨first, _, rfl⟩ := mem_buildCandidates.mp built
  have settled := (sameViews_settledAtoms (fun atom => (atom.timestamp, atom.sourceKey)) sources
    context fun _ => rfl).exists_iff fun seen => first.timestamp = seen.1 ∧ seen.2 = key
  simp only [finishCandidate_supportingSources, finishCandidate_timestamp, mem_sortDedup,
    mergedWork, List.mem_map, List.mem_filter, decide_eq_true_eq, and_assoc]
  exact settled

theorem mem_built_observationIndices {index : Nat} :
    index ∈ candidate.observationIndices ↔ ∃ atom ∈ visitedAtoms 0 sources,
      candidate.timestamp = atom.timestamp ∧ index ∈ atom.observationIndices := by
  obtain ⟨first, _, rfl⟩ := mem_buildCandidates.mp built
  have settled := (sameViews_settledAtoms (fun atom => (atom.timestamp, atom.observationIndices))
    sources context fun _ => rfl).exists_iff fun seen =>
      first.timestamp = seen.1 ∧ index ∈ seen.2
  simp only [finishCandidate_observationIndices, finishCandidate_timestamp, mem_sortDedup,
    mergedWork, List.mem_flatMap, List.mem_filter, decide_eq_true_eq, and_assoc]
  exact settled

end Built

variable (member : candidate ∈ sortedCandidates sources context)
include member

theorem mem_supportingSources {key : SourceKey} :
    key ∈ candidate.supportingSources ↔ ∃ atom ∈ visitedAtoms 0 sources,
      candidate.timestamp = atom.timestamp ∧ atom.sourceKey = key := by
  obtain ⟨before, built, gate, rfl, _⟩ := mem_sortedCandidates member
  exact mem_built_supportingSources built

theorem mem_observationIndices {index : Nat} :
    index ∈ candidate.observationIndices ↔ ∃ atom ∈ visitedAtoms 0 sources,
      candidate.timestamp = atom.timestamp ∧ index ∈ atom.observationIndices := by
  obtain ⟨before, built, gate, rfl, _⟩ := mem_sortedCandidates member
  exact mem_built_observationIndices built

/-- No candidate is more confident than the best of the atoms that carry its timestamp. -/
theorem confidenceRank_le_base :
    ∃ atom ∈ visitedAtoms 0 sources, candidate.timestamp = atom.timestamp ∧
      confidenceRank candidate.confidence ≤ confidenceRank atom.baseConfidence := by
  obtain ⟨before, built, gate, rfl, _⟩ := mem_sortedCandidates member
  obtain ⟨first, present, rfl⟩ := mem_buildCandidates.mp built
  have settled := (sameViews_settledAtoms (fun atom => (atom.timestamp, atom.baseConfidence))
    sources context fun _ => rfl).exists_iff
  have capped := finishCandidate_confidence_le context (settledFlags sources context)
    first.timestamp ((settledAtoms sources context).filter fun other =>
      first.timestamp = other.timestamp)
  dsimp only
  generalize confidenceRank (finishCandidate _ _ _ _).1.confidence = level at capped ⊢
  by_contra none
  push Not at none
  obtain ⟨carrier, carries, sameTime⟩ :=
    (settled fun seen => first.timestamp = seen.1).mp ⟨first, present, rfl⟩
  have above := none carrier carries sameTime
  have positive := one_le_baseConfidence carries
  -- every supporter lies below the candidate, so their strongest does
  have best : confidenceRank (strongestConfidence ((settledAtoms sources context).filter
      fun other => first.timestamp = other.timestamp)) ≤ level - 1 := by
    refine confidenceRank_strongestConfidence_le.mpr fun atom found => ?_
    obtain ⟨listed, sameStamp⟩ := List.mem_filter.mp found
    obtain ⟨other, visited, otherTime, otherBase⟩ := (settled fun seen =>
      first.timestamp = seen.1 ∧ seen.2 = atom.baseConfidence).mp
        ⟨atom, listed, of_decide_eq_true sameStamp, rfl⟩
    have below := none other visited otherTime
    have sameBase : other.baseConfidence = atom.baseConfidence := otherBase
    rw [sameBase] at below
    exact Nat.le_sub_one_of_lt below
  omega

theorem exists_supports :
    ∃ atom, Supports sources candidate atom ∧
      confidenceRank candidate.confidence ≤ confidenceRank atom.baseConfidence := by
  obtain ⟨atom, found, same, le⟩ := confidenceRank_le_base member
  refine ⟨atom, ⟨found, same, ?_, fun index listed => ?_⟩, le⟩
  · exact (mem_supportingSources member).mpr ⟨atom, found, same, rfl⟩
  · exact (mem_observationIndices member).mpr ⟨atom, found, same, listed⟩

end Supporters

/-! ## The verdict -/

theorem aggregateWithinLimits_of_append {first second : List EvidenceSource}
    {context : PolicyContext} (within : aggregateWithinLimits (first ++ second) context = true) :
    aggregateWithinLimits first context = true := by
  rw [aggregateWithinLimits_iff] at within ⊢
  obtain ⟨fewSources, fewRules, paths, counts⟩ := within
  rw [List.length_append] at fewSources
  rw [List.map_append, List.sum_append] at counts
  exact ⟨by omega, fewRules, fun source member => paths source (List.mem_append_left _ member),
    countsWithin_of_add _ _ counts⟩

theorem forall₂_of_map_eq {α β : Type*} {view : α → β} {first second : List α}
    {relation : α → α → Prop} (same : first.map view = second.map view)
    (related : ∀ left ∈ first, ∀ right ∈ second, view left = view right → relation left right) :
    List.Forall₂ relation first second := by
  induction first generalizing second with
  | nil =>
      rw [List.map_nil, eq_comm, List.map_eq_nil_iff] at same
      rw [same]
      exact .nil
  | cons left rest ih =>
      cases second with
      | nil => cases same
      | cons right others =>
          rw [List.map_cons, List.map_cons, List.cons.injEq] at same
          exact .cons (related left List.mem_cons_self right List.mem_cons_self same.1)
            (ih same.2 fun a ha b hb => related a (List.mem_cons_of_mem _ ha) b
              (List.mem_cons_of_mem _ hb))

/-- Keys that grew by the key of a copy at most. -/
structure KeysGrown (key : SourceKey) (before after : List SourceKey) : Prop where
  kept : before ⊆ after
  added : after ⊆ key :: before

/-- What may change of a candidate when a copy is added: the key of the copy joins its
supporters. -/
structure Grown (key : SourceKey) (before after : TimeCandidate) : Prop where
  timestamp : after.timestamp = before.timestamp
  evidenceKinds : after.evidenceKinds = before.evidenceKinds
  supportingLineages : after.supportingLineages = before.supportingLineages
  confidence : after.confidence = before.confidence
  anomalies : after.anomalies = before.anomalies
  evidenceGate : after.evidenceGate = before.evidenceGate
  supporters : KeysGrown key before.supportingSources after.supportingSources

/-- The analysis with a copy, compared with the analysis without it. -/
structure CopyChangesNothing (sources enlarged : List EvidenceSource) (key : SourceKey)
    (context : PolicyContext) : Prop where
  decision : (analyzeTimestampEvidence enlarged context).decision =
    (analyzeTimestampEvidence sources context).decision
  candidates : List.Forall₂ (Grown key) (analyzeTimestampEvidence sources context).candidates
    (analyzeTimestampEvidence enlarged context).candidates

section Verdict

variable {sources enlarged : List EvidenceSource} {source : EvidenceSource} {key : SourceKey}
  {context : PolicyContext} (member : source ∈ sources)
  (fresh : key ∉ sources.map (·.sourceKey))
  (perm : enlarged.Perm (sources ++ [copyOf key source]))
include member fresh perm

theorem builtCandidates_copy :
    (builtCandidates sources context).1.map (forget fun _ => []) =
      (builtCandidates enlarged context).1.map (forget fun _ => []) := by
  have reordered := congrArg (List.map (forget fun _ => [])) (builtCandidates_perm perm context)
  simp only [List.map_map] at reordered
  have blurred : (forget fun _ => []) ∘ withoutIndices = forget fun _ => [] := rfl
  rw [blurred] at reordered
  rw [reordered]
  symm
  have flags := settledFlags_copy member fresh context
  have blurs : Blurs (fun _ => key) fun _ => [] := fun _ _ _ => rfl
  rw [builtCandidates, builtCandidates, flags]
  refine buildCandidates_congr blurs ?_
  have visited : SameViews (keyView (fun _ => key) (settledFlags sources context).globalConflict)
      (visitedAtoms 0 (sources ++ [copyOf key source])) (visitedAtoms 0 sources) :=
    sameViews_copy member fun _ _ _ => rfl
  have settled : ∀ supplied, SameViews
      (keyView (fun _ => key) (settledFlags supplied context).globalConflict)
      (settledAtoms supplied context) (visitedAtoms 0 supplied) := by
    intro supplied
    have same : SameViews (gateView (settledFlags supplied context).globalConflict)
        (settledAtoms supplied context) (visitedAtoms 0 supplied) := fun value => by
      rw [map_gateView_settledAtoms]
    exact same.read fun atom => { atom with sourceKey := key }
  intro value
  have enlargedSettled := settled (sources ++ [copyOf key source]) value
  rw [flags] at enlargedSettled
  rw [enlargedSettled, visited, settled sources value]

omit member fresh in
/-- The atoms of the enlarged list, as the supporters of a candidate are read off them. -/
theorem keysGrown_supporters {before after : TimeCandidate}
    (kept : ∀ other, other ∈ before.supportingSources ↔ ∃ atom ∈ visitedAtoms 0 sources,
      before.timestamp = atom.timestamp ∧ atom.sourceKey = other)
    (found : ∀ other, other ∈ after.supportingSources ↔ ∃ atom ∈ visitedAtoms 0 enlarged,
      after.timestamp = atom.timestamp ∧ atom.sourceKey = other)
    (sameTime : after.timestamp = before.timestamp) :
    KeysGrown key before.supportingSources after.supportingSources := by
  have reordered : SameViews (fun atom : Atom => (atom.timestamp, atom.sourceKey))
      (visitedAtoms 0 enlarged) (visitedAtoms 0 (sources ++ [copyOf key source])) := by
    have seen := (visitedAtoms_perm perm).map fun atom : Atom => (atom.timestamp, atom.sourceKey)
    rw [List.map_map, List.map_map] at seen
    exact .of_perm seen
  have supports : ∀ other, other ∈ after.supportingSources ↔
      ∃ atom ∈ visitedAtoms 0 (sources ++ [copyOf key source]),
        before.timestamp = atom.timestamp ∧ atom.sourceKey = other := by
    intro other
    rw [found, sameTime]
    exact reordered.exists_iff fun seen => before.timestamp = seen.1 ∧ seen.2 = other
  rw [visitedAtoms_append] at supports
  constructor
  · intro other supporter
    obtain ⟨atom, visited, same⟩ := (kept other).mp supporter
    exact (supports other).mpr ⟨atom, List.mem_append_left _ visited, same⟩
  · intro other supporter
    obtain ⟨atom, visited, same, rfl⟩ := (supports other).mp supporter
    rcases List.mem_append.mp visited with old | new
    · exact List.mem_cons_of_mem _ ((kept _).mpr ⟨atom, old, same, rfl⟩)
    · rw [visitedAtoms, visitedAtoms, List.append_nil, copyOf_eq, trustedFields_relabel] at new
      obtain ⟨own, _, rfl⟩ := List.mem_map.mp new
      exact List.mem_cons_self

omit member fresh perm in
/-- Candidates that look alike and support alike are grown by the copy. -/
theorem grown_of_forget {before after : TimeCandidate}
    (same : forget (fun _ => []) before = forget (fun _ => []) after)
    (supporters : KeysGrown key before.supportingSources after.supportingSources) :
    Grown key before after := by
  have read : ∀ {α : Type} (view : TimeCandidate → α),
      (∀ candidate, view (forget (fun _ => []) candidate) = view candidate) →
        view after = view before := by
    intro α view unseen
    rw [← unseen before, same, unseen]
  exact ⟨read (·.timestamp) fun _ => rfl, read (·.evidenceKinds) fun _ => rfl,
    read (·.supportingLineages) fun _ => rfl, read (·.confidence) fun _ => rfl,
    read (·.anomalies) fun _ => rfl, read (·.evidenceGate) fun _ => rfl, supporters⟩

theorem sortedCandidates_copy :
    (sortedCandidates sources context).map (forget fun _ => []) =
      (sortedCandidates enlarged context).map (forget fun _ => []) :=
  sortedCandidates_forget (builtCandidates_copy member fresh perm)

theorem copyChangesNothing (within : aggregateWithinLimits enlarged context = true) :
    CopyChangesNothing sources enlarged key context := by
  have within' : aggregateWithinLimits sources context = true :=
    aggregateWithinLimits_of_append (aggregateWithinLimits_perm perm context ▸ within)
  have alike : (sortedCandidates sources context).map (forget fun _ => []) =
      (sortedCandidates enlarged context).map (forget fun _ => []) :=
    sortedCandidates_copy member fresh perm
  have flags : settledFlags enlarged context = settledFlags sources context :=
    (settledFlags_perm perm context).trans (settledFlags_copy member fresh context)
  constructor
  · rw [analyzeTimestampEvidence_eq within, analyzeTimestampEvidence_eq within']
    dsimp only
    rw [decideCandidates_congr alike, flags]
  · rw [analyzeTimestampEvidence_eq within, analyzeTimestampEvidence_eq within']
    dsimp only
    refine forall₂_of_map_eq alike fun before hbefore after hafter same => ?_
    exact grown_of_forget same (keysGrown_supporters perm
      (fun _ => mem_supportingSources hbefore) (fun _ => mem_supportingSources hafter)
      (congrArg TimeCandidate.timestamp same).symm)

end Verdict

end Guiying.Time.Policy
