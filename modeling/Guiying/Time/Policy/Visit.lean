import Guiying.Time.Policy.Analyze

/-!
# The visit of the sources

The fold over the sources in closed form: what each source contributes, at the
observation index it starts from, and how the flags of the pass come about.
-/

namespace Guiying.Time.Policy

open Guiying.Foundation Guiying.Foundation.SortedSet Guiying.Metadata

@[simp] theorem raiseIf_true {α : Type*} (issue : α) : raiseIf true issue = [issue] := rfl

@[simp] theorem raiseIf_false {α : Type*} (issue : α) : raiseIf false issue = [] := rfl

@[simp] theorem mem_raiseIf {α : Type*} {condition : Bool} {issue item : α} :
    item ∈ raiseIf condition issue ↔ condition = true ∧ item = issue := by
  cases condition <;> simp

theorem length_raiseIf_le {α : Type*} (condition : Bool) (issue : α) :
    (raiseIf condition issue).length ≤ 1 := by
  cases condition <;> simp

/-! ## References -/

@[simp] theorem refsFrom_observations (start : Nat) (observations : List EvidenceObservation) :
    (refsFrom start observations).map (·.observation) = observations := by
  induction observations generalizing start with
  | nil => rfl
  | cons observation rest ih => rw [refsFrom, List.map_cons, ih]

@[simp] theorem length_refsFrom (start : Nat) (observations : List EvidenceObservation) :
    (refsFrom start observations).length = observations.length := by
  have same := congrArg List.length (refsFrom_observations start observations)
  rwa [List.length_map] at same

theorem length_sourceRefs (start : Nat) (source : EvidenceSource) :
    (sourceRefs start source).length = source.report.fields.length := by
  rw [sourceRefs, length_refsFrom, List.length_map]

theorem sourceRefs_observations (start : Nat) (source : EvidenceSource) :
    (sourceRefs start source).map (·.observation) = source.report.fields.map (observe source) :=
  refsFrom_observations _ _

/-- The references of a source observe exactly the fields of its report. -/
theorem mem_sourceRefs {start : Nat} {source : EvidenceSource} {ref : ObservationRef}
    (member : ref ∈ sourceRefs start source) :
    ∃ field ∈ source.report.fields, ref.observation = observe source field := by
  have observed : ref.observation ∈ (sourceRefs start source).map (·.observation) :=
    List.mem_map_of_mem member
  rw [sourceRefs_observations, List.mem_map] at observed
  obtain ⟨field, present, same⟩ := observed
  exact ⟨field, present, same.symm⟩

theorem exists_sourceRef (start : Nat) {source : EvidenceSource} {field : MetadataField}
    (present : field ∈ source.report.fields) :
    ∃ ref ∈ sourceRefs start source, ref.observation = observe source field := by
  have observed : observe source field ∈ (sourceRefs start source).map (·.observation) := by
    rw [sourceRefs_observations]
    exact List.mem_map_of_mem present
  exact List.mem_map.mp observed

theorem any_sourceRefs_rejected (start : Nat) (source : EvidenceSource) :
    ((sourceRefs start source).any fun ref => isRejected ref.observation.interpretation) =
      source.report.fields.any fun field => isRejected (interpretField field) := by
  have same := congrArg (fun observations : List EvidenceObservation =>
    observations.any fun observation => isRejected observation.interpretation)
    (sourceRefs_observations start source)
  simpa [List.any_map, Function.comp_def, observe] using same

/-! ## The fold -/

/-- The atoms of sources visited from an observation index on. -/
def visitedAtoms : Nat → List EvidenceSource → List Atom
  | _, [] => []
  | start, source :: rest =>
      (trustedFields start source).1 ++ visitedAtoms (start + source.report.fields.length) rest

/-- The issues of one source, given whether its key was seen before. -/
def sourceIssues (start : Nat) (duplicate : Bool) (source : EvidenceSource) : List PolicyIssue :=
  identityIssues duplicate source ++ (sourceRefs start source).flatMap (fieldIssues source) ++
    statusIssues source ++ (trustedFields start source).2

/-- The issues of sources visited from an observation index on, with some keys seen before. -/
def visitedIssues : Nat → Finset SourceKey → List EvidenceSource → List PolicyIssue
  | _, _, [] => []
  | start, seen, source :: rest =>
      sourceIssues start (source.sourceKey ∈ seen) source ++
        visitedIssues (start + source.report.fields.length) (insert source.sourceKey seen) rest

/-- A key is repeated among the sources, or was seen before. -/
def RepeatsKey (seen : Finset SourceKey) (sources : List EvidenceSource) : Prop :=
  ¬ (sources.map (·.sourceKey)).Nodup ∨ ∃ source ∈ sources, source.sourceKey ∈ seen

theorem repeatsKey_cons {seen : Finset SourceKey} {source : EvidenceSource}
    {rest : List EvidenceSource} :
    RepeatsKey seen (source :: rest) ↔
      source.sourceKey ∈ seen ∨ RepeatsKey (insert source.sourceKey seen) rest := by
  unfold RepeatsKey
  simp only [List.map_cons, List.nodup_cons, List.mem_map, List.mem_cons, exists_eq_or_imp,
    Finset.mem_insert]
  constructor
  · rintro (clash | seenBefore | ⟨other, present, seenBefore⟩)
    · rw [not_and_or, not_not] at clash
      rcases clash with ⟨other, present, same⟩ | clash
      · exact Or.inr (Or.inr ⟨other, present, Or.inl same⟩)
      · exact Or.inr (Or.inl clash)
    · exact Or.inl seenBefore
    · exact Or.inr (Or.inr ⟨other, present, Or.inr seenBefore⟩)
  · rintro (seenBefore | clash | ⟨other, present, same | seenBefore⟩)
    · exact Or.inr (Or.inl seenBefore)
    · exact Or.inl fun distinct => clash distinct.2
    · exact Or.inl fun distinct => distinct.1 ⟨other, present, same⟩
    · exact Or.inr (Or.inr ⟨other, present, seenBefore⟩)

theorem repeatsKey_empty {sources : List EvidenceSource} :
    RepeatsKey ∅ sources ↔ ¬ (sources.map (·.sourceKey)).Nodup := by
  simp [RepeatsKey]

/-- A report that is not trusted, whatever its fields. -/
def untrustedReport (source : EvidenceSource) : Bool :=
  untrustedStatus source.report.status || statusContradiction source.report

section Fold

variable (sources : List EvidenceSource) (pass : AnalysisPass)

theorem foldl_visitSource_atoms :
    (sources.foldl visitSource pass).atoms =
      pass.atoms ++ visitedAtoms pass.observations.length sources := by
  induction sources generalizing pass with
  | nil => simp [visitedAtoms]
  | cons source rest ih =>
      rw [List.foldl_cons, ih, visitedAtoms, ← List.append_assoc]
      simp [visitSource, length_sourceRefs]

theorem foldl_visitSource_issues :
    (sources.foldl visitSource pass).issues =
      pass.issues ++ visitedIssues pass.observations.length pass.seenSourceKeys sources := by
  induction sources generalizing pass with
  | nil => simp [visitedIssues]
  | cons source rest ih =>
      rw [List.foldl_cons, ih, visitedIssues, ← List.append_assoc]
      simp [visitSource, length_sourceRefs, sourceIssues]

theorem foldl_visitSource_invalidEvidence :
    (sources.foldl visitSource pass).invalidEvidence =
      (pass.invalidEvidence || sources.any fun source =>
        source.report.fields.any fun field => isRejected (interpretField field)) := by
  induction sources generalizing pass with
  | nil => simp
  | cons source rest ih =>
      rw [List.foldl_cons, ih, List.any_cons, ← Bool.or_assoc]
      simp only [visitSource, any_sourceRefs_rejected]

theorem foldl_visitSource_extractionUntrusted :
    (sources.foldl visitSource pass).extractionUntrusted = true ↔
      pass.extractionUntrusted = true ∨ RepeatsKey pass.seenSourceKeys sources ∨
        ∃ source ∈ sources, untrustedReport source = true := by
  induction sources generalizing pass with
  | nil => simp [RepeatsKey]
  | cons source rest ih =>
      rw [List.foldl_cons, ih, repeatsKey_cons]
      simp only [visitSource, untrustedReport, Bool.or_eq_true, decide_eq_true_eq, List.mem_cons,
        exists_eq_or_imp]
      simp only [or_assoc, or_left_comm]

end Fold

theorem visitSources_atoms (sources : List EvidenceSource) :
    (visitSources sources).atoms = visitedAtoms 0 sources := by
  rw [visitSources, foldl_visitSource_atoms]
  rfl

theorem visitSources_issues (sources : List EvidenceSource) :
    (visitSources sources).issues = visitedIssues 0 ∅ sources := by
  rw [visitSources, foldl_visitSource_issues]
  rfl

theorem visitSources_invalidEvidence (sources : List EvidenceSource) :
    (visitSources sources).invalidEvidence =
      sources.any fun source =>
        source.report.fields.any fun field => isRejected (interpretField field) := by
  rw [visitSources, foldl_visitSource_invalidEvidence]
  rfl

theorem visitSources_extractionUntrusted (sources : List EvidenceSource) :
    (visitSources sources).extractionUntrusted = true ↔
      ¬ (sources.map (·.sourceKey)).Nodup ∨
        ∃ source ∈ sources, untrustedReport source = true := by
  rw [visitSources, foldl_visitSource_extractionUntrusted]
  simp [RepeatsKey]

/-! ## Members -/

/-- An atom comes from a source, visited at some index with all its issues. -/
theorem mem_visitedAtoms {atom : Atom} {start : Nat} {sources : List EvidenceSource}
    (seen : Finset SourceKey) (member : atom ∈ visitedAtoms start sources) :
    ∃ source ∈ sources, ∃ from' duplicate, atom ∈ (trustedFields from' source).1 ∧
      sourceIssues from' duplicate source ⊆ visitedIssues start seen sources := by
  induction sources generalizing start seen with
  | nil => simp [visitedAtoms] at member
  | cons source rest ih =>
      rw [visitedAtoms, List.mem_append] at member
      rcases member with here | later
      · exact ⟨source, List.mem_cons_self, start, _, here, List.subset_append_left _ _⟩
      · obtain ⟨other, present, from', duplicate, found, issues⟩ :=
          ih (insert source.sourceKey seen) later
        exact ⟨other, List.mem_cons_of_mem source present, from', duplicate, found,
          fun _ raised => List.mem_append_right _ (issues raised)⟩

/-- Every source has an index from which the pass took its atoms and issues. -/
theorem exists_visited_start {source : EvidenceSource} {sources : List EvidenceSource}
    (member : source ∈ sources) (start : Nat) (seen : Finset SourceKey) :
    ∃ from' duplicate, (trustedFields from' source).1 ⊆ visitedAtoms start sources ∧
      sourceIssues from' duplicate source ⊆ visitedIssues start seen sources := by
  induction sources generalizing start seen with
  | nil => cases member
  | cons head rest ih =>
      rcases List.mem_cons.mp member with rfl | later
      · exact ⟨start, _, List.subset_append_left _ _, List.subset_append_left _ _⟩
      · obtain ⟨from', duplicate, atoms, issues⟩ :=
          ih later (start + head.report.fields.length) (insert head.sourceKey seen)
        exact ⟨from', duplicate, fun _ found => List.mem_append_right _ (atoms found),
          fun _ found => List.mem_append_right _ (issues found)⟩

end Guiying.Time.Policy
