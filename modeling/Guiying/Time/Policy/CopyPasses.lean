import Guiying.Time.Policy.CopyIssues

/-!
# Copies cannot vote, pass by pass

Each pass over the atoms raises the issues it raised without the copy, grown by
the copy: a group keeps its values, and the candidates keep their ranks. The
representatives of a lineage stay the same when the copy stands behind its
source; in front of it the copy may stand for some of them. The analysis as a
whole follows.
-/

namespace Guiying.Time.Policy

open Guiying.Foundation Guiying.Foundation.SortedSet Guiying.Foundation.MachineInt
open Guiying.Metadata

variable {first second : List EvidenceSource} {source : EvidenceSource} {key : SourceKey}

/-! ## Groups of atoms -/

/-- A test that reads neither keys nor indices. -/
def Unlabelled (test : Atom → Bool) : Prop :=
  ∀ (number : Nat → Nat) (renamed : SourceKey → SourceKey) (atom : Atom),
    test (atom.relabel number renamed) = test atom

namespace AtomsFollow

variable {before after : List Atom}

/-- The atoms that pass such a test follow. -/
theorem filter {test : Atom → Bool} (follow : AtomsFollow first source key before after)
    (unlabelled : Unlabelled test) :
    AtomsFollow first source key (before.filter test) (after.filter test) := by
  constructor
  · intro atom found
    obtain ⟨listed, passes⟩ := List.mem_filter.mp found
    refine List.mem_filter.mpr ⟨follow.kept atom listed, ?_⟩
    rw [placed, unlabelled]
    exact passes
  · intro later found
    obtain ⟨listed, passes⟩ := List.mem_filter.mp found
    refine (follow.explained later listed).imp ?_ ?_
    · rintro ⟨atom, present, rfl⟩
      rw [placed, unlabelled] at passes
      exact ⟨atom, List.mem_filter.mpr ⟨present, passes⟩, rfl⟩
    · rintro ⟨atom, present, number, rfl, inside⟩
      rw [unlabelled] at passes
      exact ⟨atom, List.mem_filter.mpr ⟨present, passes⟩, number, rfl, inside⟩

/-- What reads neither keys nor indices sees the same. -/
theorem sameViews {β : Type*} {view : Atom → β} (follow : AtomsFollow first source key before after)
    (unlabelled : ∀ (number : Nat → Nat) (renamed : SourceKey → SourceKey) (atom : Atom),
      view (atom.relabel number renamed) = view atom) :
    SameViews view after before := by
  intro value
  constructor
  · intro seen
    obtain ⟨later, listed, rfl⟩ := List.mem_map.mp seen
    rcases follow.explained later listed with ⟨atom, present, rfl⟩ | ⟨atom, present, _, rfl, _⟩
    · rw [placed, unlabelled]
      exact List.mem_map_of_mem present
    · rw [unlabelled]
      exact List.mem_map_of_mem present
  · intro seen
    obtain ⟨atom, present, rfl⟩ := List.mem_map.mp seen
    refine List.mem_map.mpr ⟨_, follow.kept atom present, ?_⟩
    rw [placed, unlabelled]

theorem indices (follow : AtomsFollow first source key before after) :
    IndicesGrown first source (before.flatMap (·.observationIndices))
      (after.flatMap (·.observationIndices)) := by
  constructor
  · intro index found
    obtain ⟨old, listed, rfl⟩ := List.mem_map.mp found
    obtain ⟨atom, present, carries⟩ := List.mem_flatMap.mp listed
    exact List.mem_flatMap.mpr ⟨_, follow.kept atom present, List.mem_map_of_mem carries⟩
  · intro index found
    obtain ⟨later, listed, carries⟩ := List.mem_flatMap.mp found
    rcases follow.explained later listed with ⟨atom, present, rfl⟩ | ⟨_, _, _, _, inside⟩
    · obtain ⟨old, carried, rfl⟩ := List.mem_map.mp carries
      exact Or.inl (List.mem_map_of_mem (List.mem_flatMap.mpr ⟨atom, present, carried⟩))
    · exact Or.inr (inside index carries)

theorem keys (follow : AtomsFollow first source key before after) :
    KeysGrown key (before.map (·.sourceKey)) (after.map (·.sourceKey)) := by
  constructor
  · intro other found
    obtain ⟨atom, present, rfl⟩ := List.mem_map.mp found
    exact List.mem_map.mpr ⟨_, follow.kept atom present, rfl⟩
  · intro other found
    obtain ⟨later, listed, rfl⟩ := List.mem_map.mp found
    rcases follow.explained later listed with ⟨atom, present, rfl⟩ | ⟨_, _, _, rfl, _⟩
    · exact List.mem_cons_of_mem _ (List.mem_map.mpr ⟨atom, present, rfl⟩)
    · exact List.mem_cons_self

/-- An issue about atoms that follow is grown. -/
theorem issue (follow : AtomsFollow first source key before after) (code : PolicyIssueCode)
    (context : String) :
    IssueGrown first source key (issueForAtoms code before context)
      (issueForAtoms code after context) where
  code := rfl
  fieldKind := rfl
  lineageKeys := sortDedup_congr (follow.sameViews fun _ _ _ => rfl)
  sources := follow.keys.canonical
  observations := follow.indices.canonical

theorem lineageIssues (follow : AtomsFollow first source key before after) :
    IssuesFollow first second source key (Policy.lineageIssues before)
      (Policy.lineageIssues after) := by
  have groups : sortDedup (after.map lineageGroupKey) = sortDedup (before.map lineageGroupKey) :=
    sortDedup_congr (follow.sameViews fun _ _ _ => rfl)
  have group : ∀ target, AtomsFollow first source key (lineageGroup before target)
      (lineageGroup after target) := fun target => follow.filter fun _ _ _ => rfl
  have disagrees : ∀ target, lineageDisagrees (lineageGroup after target) =
      lineageDisagrees (lineageGroup before target) := by
    intro target
    rw [lineageDisagrees, lineageDisagrees,
      sortDedup_congr ((group target).sameViews fun _ _ _ => rfl)]
  have tests : lineageDisagrees ∘ lineageGroup after = lineageDisagrees ∘ lineageGroup before :=
    funext disagrees
  rw [Policy.lineageIssues, Policy.lineageIssues, groups, List.filter_map, List.filter_map, tests,
    List.map_map, List.map_map]
  refine .map (List.forall₂_same.mpr fun _ _ => rfl) ?_
  rintro target _ rfl
  exact (group target).issue _ _

end AtomsFollow

/-! ## Strong values -/

theorem issueForAtoms_placed (code : PolicyIssueCode) (atoms : List Atom) (context : String) :
    IssueGrown first source key (issueForAtoms code atoms context)
      (issueForAtoms code (atoms.map (placed first source)) context) where
  code := rfl
  fieldKind := rfl
  lineageKeys := by
    simp only [issueForAtoms, List.map_map]
    rfl
  sources := by
    simp only [issueForAtoms, List.map_map]
    exact .refl _
  observations := by
    simp only [issueForAtoms, List.flatMap_map]
    refine IndicesGrown.canonical (.of_map ?_)
    rw [List.map_flatMap]
    rfl

/-- A copy behind its source adds no representative. -/
theorem strongAtoms_copy (behind : source ∈ first) :
    strongAtoms [] (visitedAtoms 0 (first ++ copyOf key source :: second)) =
      (strongAtoms [] (visitedAtoms 0 (first ++ second))).map (placed first source) := by
  have old := visitedAtoms_append 0 first second
  rw [Nat.zero_add] at old
  have strong : ∀ atom, (placed first source atom).strong = atom.strong := fun _ => rfl
  have sameKey : ∀ atom, representativeKey (placed first source atom) = representativeKey atom :=
    fun _ => rfl
  rw [← strongAtoms_map strong sameKey, old, List.map_append, visitedAtoms_copy]
  refine strongAtoms_insert _ fun later found isStrong => Or.inr ?_
  obtain ⟨own, listed, rfl⟩ := List.mem_map.mp found
  obtain ⟨start, _, atoms, _⟩ := exists_visited_start behind 0 ∅
  have moved := trustedFields_relabel start id source
  rw [rekeySource_id] at moved
  have present : own.relabel (start + ·) id ∈ (trustedFields start source).1 := by
    rw [moved]
    exact List.mem_map_of_mem listed
  exact ⟨_, List.mem_map_of_mem (atoms present), isStrong, rfl⟩

/-- An atom carries the keys of a source. -/
theorem exists_origin {sources : List EvidenceSource} {start : Nat} {atom : Atom}
    (found : atom ∈ visitedAtoms start sources) :
    ∃ origin ∈ sources, origin.sourceKey = atom.sourceKey ∧
      origin.lineageKey = atom.lineageKey := by
  have moved := visitedAtoms_shift start 0 sources
  rw [Nat.add_zero] at moved
  rw [moved] at found
  obtain ⟨own, listed, rfl⟩ := List.mem_map.mp found
  have exact_ := (visited_exact [] ∅ sources).atoms own listed
  obtain ⟨index, here⟩ := List.exists_mem_of_ne_nil _ exact_.supported
  obtain ⟨observation, located, sameKey, sameLineage⟩ := exact_.located index here
  obtain ⟨origin, member, observed⟩ := List.mem_flatMap.mp (List.mem_of_getElem? located)
  obtain ⟨field, _, rfl⟩ := List.mem_map.mp observed
  exact ⟨origin, member, sameKey, sameLineage⟩

/-- The atoms of the copy carry its key and its lineage, and only its own observations. -/
theorem mem_copiedAtoms {atom : Atom} (found : atom ∈ copiedAtoms first source key) :
    atom.sourceKey = key ∧ atom.lineageKey = source.lineageKey ∧
      ∀ index ∈ atom.observationIndices, OfCopy first source index := by
  obtain ⟨own, listed, rfl⟩ := List.mem_map.mp found
  have visited : own ∈ visitedAtoms 0 [source] := List.mem_append_left _ listed
  obtain ⟨origin, member, _, lineage⟩ := exists_origin visited
  refine ⟨rfl, ?_, ?_⟩
  · rw [List.mem_singleton.mp member] at lineage
    exact lineage.symm
  · intro index inside
    obtain ⟨field, here, rfl⟩ := List.mem_map.mp inside
    exact ofCopy_shift (index_lt_of_trustedFields listed field here)

/-- Atoms in their places, but for those behind the copy for which one of its atoms stands. -/
structure AtomsTaken (first second : List EvidenceSource) (source : EvidenceSource)
    (key : SourceKey) (before after : List Atom) : Prop where
  kept : ∀ atom ∈ before, placed first source atom ∈ after ∨
    (∃ origin ∈ second, origin.sourceKey = atom.sourceKey ∧
      origin.lineageKey = source.lineageKey) ∧
      ∃ other ∈ after, other ∈ copiedAtoms first source key
  explained : ∀ later ∈ after, (∃ atom ∈ before, later = placed first source atom) ∨
    later ∈ copiedAtoms first source key
  keys : SameViews representativeKey after before

theorem strongAtoms_taken (member : source ∈ first ++ second) :
    AtomsTaken first second source key (strongAtoms [] (visitedAtoms 0 (first ++ second)))
      (strongAtoms [] (visitedAtoms 0 (first ++ copyOf key source :: second))) := by
  have strong : ∀ atom, (placed first source atom).strong = atom.strong := fun _ => rfl
  have sameKey : ∀ atom, representativeKey (placed first source atom) = representativeKey atom :=
    fun _ => rfl
  have old := visitedAtoms_append 0 first second
  rw [Nat.zero_add] at old
  have places : strongAtoms [] ((visitedAtoms 0 first).map (placed first source) ++
        (visitedAtoms (fieldTotal first) second).map (placed first source)) =
      (strongAtoms [] (visitedAtoms 0 (first ++ second))).map (placed first source) := by
    rw [← List.map_append, ← old, strongAtoms_map strong sameKey]
  have follow : AtomsFollow first source key (visitedAtoms 0 (first ++ second))
      (visitedAtoms 0 (first ++ copyOf key source :: second)) := visitedAtoms_follow member
  constructor
  case keys =>
    intro value
    rw [mem_keys_strongAtoms, mem_keys_strongAtoms]
    have views : SameViews (fun atom : Atom => (atom.strong, representativeKey atom))
        (visitedAtoms 0 (first ++ copyOf key source :: second))
        (visitedAtoms 0 (first ++ second)) :=
      follow.sameViews fun _ _ _ => rfl
    exact views.exists_iff fun seen => seen.1 = true ∧ seen.2 = value
  case kept =>
    intro atom chosen
    have moved := List.mem_map_of_mem (f := placed first source) chosen
    rw [← places] at moved
    rw [visitedAtoms_copy]
    refine (mem_strongAtoms_replaced moved).imp_right ?_
    rintro ⟨behind, other, copied, chosen, same⟩
    obtain ⟨own, listed, alike⟩ := List.mem_map.mp behind
    obtain ⟨origin, here, originKey, originLineage⟩ := exists_origin listed
    have lineage : atom.lineageKey = source.lineageKey := by
      rw [← (mem_copiedAtoms copied).2.1]
      exact (congrArg Prod.fst same).symm
    have sourceKeys : own.sourceKey = atom.sourceKey := (congrArg Atom.sourceKey alike :)
    have lineages : own.lineageKey = atom.lineageKey := (congrArg Atom.lineageKey alike :)
    exact ⟨⟨origin, here, originKey.trans sourceKeys,
      originLineage.trans (lineages.trans lineage)⟩, other, chosen, copied⟩
  case explained =>
    intro later chosen
    rw [visitedAtoms_copy] at chosen
    refine (mem_strongAtoms_inserted chosen).imp_left fun placed_ => ?_
    rw [places] at placed_
    obtain ⟨atom, listed, rfl⟩ := List.mem_map.mp placed_
    exact ⟨atom, listed, rfl⟩

theorem AtomsTaken.issue {before after : List Atom} {code later : PolicyIssueCode}
    (taken : AtomsTaken first second source key before after) (front : source ∉ first)
    (codes : NamesRepresentatives code ∧ NamesRepresentatives later) (context text : String) :
    IssueTaken first second source key (issueForAtoms code before context)
      (issueForAtoms later after text) where
  front := front
  codes := codes
  fieldKind := rfl
  lineageKeys := sortDedup_congr (taken.keys.read Prod.fst)
  added other found := by
    obtain ⟨atom, chosen, rfl⟩ := List.mem_map.mp (mem_sortDedup.mp found)
    rcases taken.explained atom chosen with ⟨own, listed, rfl⟩ | copied
    · exact List.mem_cons_of_mem _ (mem_sortDedup.mpr (List.mem_map.mpr ⟨own, listed, rfl⟩))
    · rw [(mem_copiedAtoms copied).1]
      exact List.mem_cons_self
  replaced other found := by
    obtain ⟨atom, chosen, rfl⟩ := List.mem_map.mp (mem_sortDedup.mp found)
    refine (taken.kept atom chosen).imp ?_ ?_
    · exact fun moved => mem_sortDedup.mpr (List.mem_map.mpr ⟨_, moved, rfl⟩)
    · rintro ⟨behind, other, listed, copied⟩
      refine ⟨mem_sortDedup.mpr (List.mem_map.mpr ⟨other, listed, ?_⟩), behind⟩
      exact (mem_copiedAtoms copied).1
  observed index found := by
    obtain ⟨atom, chosen, carries⟩ := List.mem_flatMap.mp (mem_sortDedup.mp found)
    rcases taken.explained atom chosen with ⟨own, listed, rfl⟩ | copied
    · obtain ⟨old, carried, rfl⟩ := List.mem_map.mp carries
      exact Or.inl (List.mem_map_of_mem
        (mem_sortDedup.mpr (List.mem_flatMap.mpr ⟨own, listed, carried⟩)))
    · exact Or.inr ((mem_copiedAtoms copied).2.2 index carries)
  unobserved index found := by
    obtain ⟨atom, chosen, carries⟩ := List.mem_flatMap.mp (mem_sortDedup.mp found)
    refine (taken.kept atom chosen).imp ?_ ?_
    · intro moved
      exact mem_sortDedup.mpr (List.mem_flatMap.mpr ⟨_, moved, List.mem_map_of_mem carries⟩)
    · rintro ⟨_, other, listed, copied⟩
      refine mem_sortDedup.mpr (List.mem_map.mpr ⟨other, listed, ?_⟩)
      exact (mem_copiedAtoms copied).1

/-- The representatives of the strong pass, as atoms without their conflict flags. -/
def representatives (sources : List EvidenceSource) : List AtomRef :=
  strongRepresentatives [] (markLineageConflicts (visitedAtoms 0 sources)
    (visitedIssues 0 ∅ sources)).1.zipIdx

theorem map_timestamp_representatives (sources : List EvidenceSource) :
    (representatives sources).map (·.1.timestamp) =
      (strongAtoms [] (visitedAtoms 0 sources)).map Atom.timestamp := by
  have same := map_clearConflict_representatives (visitedAtoms 0 sources)
    (visitedIssues 0 ∅ sources)
  have read := congrArg (List.map Atom.timestamp) same
  simp only [List.map_map] at read
  exact read

theorem differenceIssues_follow {refs others : List AtomRef} (context : PolicyContext)
    (difference : Option Int)
    (moved : (others.map Prod.fst).map clearConflict =
      ((refs.map Prod.fst).map clearConflict).map (placed first source)) :
    IssuesFollow first second source key (differenceIssues refs context difference)
      (differenceIssues others context difference) := by
  have grown : ∀ code text, IssueGrown first source key
      (issueForAtomIndices code refs text) (issueForAtomIndices code others text) := by
    intro code text
    rw [issueForAtomIndices_eq, issueForAtomIndices_eq, ← issueForAtoms_clearConflict,
      ← issueForAtoms_clearConflict code (others.map Prod.fst), moved]
    exact issueForAtoms_placed _ _ _
  refine .map (List.forall₂_same.mpr fun _ _ => rfl) ?_
  rintro apart _ rfl
  unfold strongConflictIssue
  split
  · exact grown _ _
  · exact grown _ _

theorem strongConflictIssue_eq {refs : List AtomRef} {atoms : List Atom}
    (same : (refs.map Prod.fst).map clearConflict = atoms.map clearConflict) (difference : Int)
    (context : PolicyContext) :
    ∃ code text, NamesRepresentatives code ∧
      strongConflictIssue refs difference context = issueForAtoms code atoms text := by
  have read : ∀ code text, issueForAtomIndices code refs text = issueForAtoms code atoms text := by
    intro code text
    rw [issueForAtomIndices_eq, ← issueForAtoms_clearConflict, same, issueForAtoms_clearConflict]
  unfold strongConflictIssue
  split
  · exact ⟨_, _, Or.inr rfl, read _ _⟩
  · exact ⟨_, _, Or.inl rfl, read _ _⟩

/-- Issues of the strong pass are raised together or not at all. -/
theorem differenceIssues_taken {refs others : List AtomRef} {context : PolicyContext}
    {difference otherDifference : Option Int}
    (same : difference.isSome = otherDifference.isSome)
    (taken : ∀ apart otherApart, IssueTaken first second source key
      (strongConflictIssue refs apart context) (strongConflictIssue others otherApart context)) :
    IssuesFollow first second source key (differenceIssues refs context difference)
      (differenceIssues others context otherDifference) := by
  cases difference with
  | none =>
      cases otherDifference with
      | none => exact .nil
      | some _ => cases same
  | some apart =>
      cases otherDifference with
      | none => cases same
      | some otherApart =>
          have here := taken apart otherApart
          constructor
          · intro issue found
            rw [List.mem_singleton.mp found]
            exact ⟨_, List.mem_cons_self, Or.inr here⟩
          · intro later found
            rw [List.mem_singleton.mp found]
            exact ⟨_, List.mem_cons_self, Or.inr (Or.inr here)⟩

theorem strongIssues_follow_behind (behind : source ∈ first) (context : PolicyContext) :
    IssuesFollow first second source key (strongIssues (representatives (first ++ second)) context)
      (strongIssues (representatives (first ++ copyOf key source :: second)) context) := by
  have moved : ((representatives (first ++ copyOf key source :: second)).map Prod.fst).map
        clearConflict =
      (((representatives (first ++ second)).map Prod.fst).map clearConflict).map
        (placed first source) := by
    rw [representatives, representatives, map_clearConflict_representatives,
      map_clearConflict_representatives, strongAtoms_copy behind, List.map_map, List.map_map]
    rfl
  have times : (representatives (first ++ copyOf key source :: second)).map (·.1.timestamp) =
      (representatives (first ++ second)).map (·.1.timestamp) := by
    rw [map_timestamp_representatives, map_timestamp_representatives, strongAtoms_copy behind,
      List.map_map]
    rfl
  rw [strongIssues, strongIssues,
    explicitDifference_of_timestamps context (.of_perm (.of_eq times)),
    floatingDifferenceOf_of_timestamps context times]
  exact (differenceIssues_follow context _ moved).append (differenceIssues_follow context _ moved)

theorem strongIssues_follow_front (member : source ∈ first ++ second) (front : source ∉ first)
    (context : PolicyContext) :
    IssuesFollow first second source key (strongIssues (representatives (first ++ second)) context)
      (strongIssues (representatives (first ++ copyOf key source :: second)) context) := by
  have atoms : AtomsTaken first second source key
      (strongAtoms [] (visitedAtoms 0 (first ++ second)))
      (strongAtoms [] (visitedAtoms 0 (first ++ copyOf key source :: second))) :=
    strongAtoms_taken member
  have old := map_clearConflict_representatives (visitedAtoms 0 (first ++ second))
    (visitedIssues 0 ∅ (first ++ second))
  have new := map_clearConflict_representatives
    (visitedAtoms 0 (first ++ copyOf key source :: second))
    (visitedIssues 0 ∅ (first ++ copyOf key source :: second))
  have taken : ∀ apart otherApart, IssueTaken first second source key
      (strongConflictIssue (representatives (first ++ second)) apart context)
      (strongConflictIssue (representatives (first ++ copyOf key source :: second)) otherApart
        context) := by
    intro apart otherApart
    obtain ⟨code, text, named, here⟩ := strongConflictIssue_eq old apart context
    obtain ⟨later, other, laterNamed, there⟩ := strongConflictIssue_eq new otherApart context
    rw [representatives, representatives, here, there]
    exact atoms.issue front ⟨named, laterNamed⟩ text other
  have times : SameViews (·.1.timestamp) (representatives (first ++ second))
      (representatives (first ++ copyOf key source :: second)) := by
    intro value
    rw [map_timestamp_representatives, map_timestamp_representatives]
    exact ((atoms.keys.read fun seen => seen.2.2) value).symm
  rw [strongIssues, strongIssues]
  exact (differenceIssues_taken (congrArg Option.isSome
      (explicitDifference_of_timestamps context times)) taken).append
    (differenceIssues_taken (isSome_floatingDifferenceOf_congr context times) taken)

theorem strongIssues_follow (member : source ∈ first ++ second) (context : PolicyContext) :
    IssuesFollow first second source key (strongIssues (representatives (first ++ second)) context)
      (strongIssues (representatives (first ++ copyOf key source :: second)) context) := by
  by_cases behind : source ∈ first
  · exact strongIssues_follow_behind behind context
  · exact strongIssues_follow_front member behind context

theorem conflictPasses_follow (member : source ∈ first ++ second)
    (fresh : key ∉ (first ++ second).map (·.sourceKey)) (context : PolicyContext) :
    IssuesFollow first second source key (conflictPasses (visitSources (first ++ second)) context).2
      (conflictPasses (visitSources (first ++ copyOf key source :: second)) context).2 := by
  simp only [conflictPasses_issues, visitSources_atoms, visitSources_issues]
  exact ((visitedIssues_follow member fresh).append
    (visitedAtoms_follow member).lineageIssues).append (strongIssues_follow member context)

/-! ## Candidates -/

/-- A candidate and the candidate that stands in its place with the copy. -/
structure CandidateFollows (first : List EvidenceSource) (source : EvidenceSource)
    (key : SourceKey) (before after : TimeCandidate) : Prop where
  grown : Grown key before after
  observations : IndicesGrown first source before.observationIndices after.observationIndices

theorem perm_copy : (first ++ copyOf key source :: second).Perm
    (first ++ second ++ [copyOf key source]) :=
  List.perm_middle.trans (List.perm_append_singleton _ _).symm

section Candidates

variable (member : source ∈ first ++ second) {context : PolicyContext}
include member

/-- The observations of a candidate are read off the atoms, which follow. -/
theorem indicesGrown_candidate {before after : TimeCandidate}
    (kept : ∀ index, index ∈ before.observationIndices ↔
      ∃ atom ∈ visitedAtoms 0 (first ++ second),
        before.timestamp = atom.timestamp ∧ index ∈ atom.observationIndices)
    (found : ∀ index, index ∈ after.observationIndices ↔
      ∃ atom ∈ visitedAtoms 0 (first ++ copyOf key source :: second),
        after.timestamp = atom.timestamp ∧ index ∈ atom.observationIndices)
    (sameTime : after.timestamp = before.timestamp) :
    IndicesGrown first source before.observationIndices after.observationIndices := by
  have follow : AtomsFollow first source key (visitedAtoms 0 (first ++ second))
      (visitedAtoms 0 (first ++ copyOf key source :: second)) := visitedAtoms_follow member
  constructor
  · intro index listed
    obtain ⟨old, present, rfl⟩ := List.mem_map.mp listed
    obtain ⟨atom, visited, same, carries⟩ := (kept old).mp present
    exact (found _).mpr ⟨_, follow.kept atom visited, sameTime.trans same,
      List.mem_map_of_mem carries⟩
  · intro index listed
    obtain ⟨later, visited, same, carries⟩ := (found index).mp listed
    rcases follow.explained later visited with ⟨atom, present, rfl⟩ | ⟨_, _, _, _, inside⟩
    · obtain ⟨old, carried, rfl⟩ := List.mem_map.mp carries
      exact Or.inl (List.mem_map_of_mem
        ((kept old).mpr ⟨atom, present, sameTime.symm.trans same, carried⟩))
    · exact Or.inr (inside index carries)

theorem candidateFollows_of_forget {before after : TimeCandidate}
    (hbefore : before ∈ (builtCandidates (first ++ second) context).1)
    (hafter : after ∈ (builtCandidates (first ++ copyOf key source :: second) context).1)
    (same : forget (fun _ => []) before = forget (fun _ => []) after) :
    CandidateFollows first source key before after := by
  have sameTime : after.timestamp = before.timestamp :=
    (congrArg TimeCandidate.timestamp same).symm
  exact ⟨grown_of_forget same (keysGrown_supporters perm_copy
      (fun _ => mem_built_supportingSources hbefore) (fun _ => mem_built_supportingSources hafter)
      sameTime),
    indicesGrown_candidate member (fun _ => mem_built_observationIndices hbefore)
      (fun _ => mem_built_observationIndices hafter) sameTime⟩

omit member in
theorem candidateIssues_follow {before after : TimeCandidate}
    (follows : CandidateFollows first source key before after) :
    IssuesFollow first second source key (candidateIssues before) (candidateIssues after) := by
  rw [candidateIssues, candidateIssues, follows.grown.anomalies, ← List.map_filterMap,
    ← List.map_filterMap]
  refine .map (List.forall₂_same.mpr fun _ _ => rfl) ?_
  rintro raised _ rfl
  exact ⟨rfl, rfl, follows.grown.supportingLineages, follows.grown.supporters,
    follows.observations⟩

omit member in
theorem flatMap_eq_of_forall₂ {α β γ : Type*} {related : α → β → Prop} {left : α → List γ}
    {right : β → List γ} {items : List α} {others : List β}
    (follow : List.Forall₂ related items others)
    (each : ∀ item other, related item other → right other = left item) :
    others.flatMap right = items.flatMap left := by
  induction follow with
  | nil => rfl
  | cons head _ ih => rw [List.flatMap_cons, List.flatMap_cons, each _ _ head, ih]

omit member in
theorem nearPairIssue_grown {pair later : List HighCandidate}
    (follow : List.Forall₂ (fun high other =>
      CandidateFollows first source key high.candidate other.candidate) pair later) :
    IssueGrown first source key (nearPairIssue pair) (nearPairIssue later) where
  code := rfl
  fieldKind := rfl
  lineageKeys := congrArg sortDedup
    (flatMap_eq_of_forall₂ follow fun _ _ follows => follows.grown.supportingLineages)
  sources := (KeysGrown.flatMap follow fun _ _ follows => follows.grown.supporters).canonical
  observations := (IndicesGrown.flatMap follow fun _ _ follows => follows.observations).canonical

variable (fresh : key ∉ (first ++ second).map (·.sourceKey))
include fresh

theorem builtCandidates_follow : List.Forall₂ (CandidateFollows first source key)
    (builtCandidates (first ++ second) context).1
    (builtCandidates (first ++ copyOf key source :: second) context).1 :=
  forall₂_of_map_eq (builtCandidates_copy member fresh perm_copy) fun _ hbefore _ hafter same =>
    candidateFollows_of_forget member hbefore hafter same

theorem blockedIssues_follow :
    IssuesFollow first second source key (blockedCandidates (first ++ second) context).2
      (blockedCandidates (first ++ copyOf key source :: second) context).2 := by
  have built : (builtCandidates (first ++ second) context).1.map (forget fun _ => []) =
      (builtCandidates (first ++ copyOf key source :: second) context).1.map (forget fun _ => []) :=
    builtCandidates_copy member fresh perm_copy
  have alike := congrArg (fun candidates => ambiguousPairs candidates context) built
  simp only [ambiguousPairs_forget] at alike
  rw [blockedCandidates, blockedCandidates, blockEqualRankNearAmbiguity_snd,
    blockEqualRankNearAmbiguity_snd]
  refine .map (forall₂_of_map_eq alike fun pair hpair later hlater same => ?_)
    fun _ _ => nearPairIssue_grown
  exact forall₂_of_map_eq same fun high hhigh other hother sameHigh =>
    candidateFollows_of_forget member (mem_ambiguousPair hpair hhigh)
      (mem_ambiguousPair hlater hother) (congrArg HighCandidate.candidate sameHigh)

/-- All issues of the analysis follow. -/
theorem allIssues_follow :
    IssuesFollow first second source key (allIssues (first ++ second) context)
      (allIssues (first ++ copyOf key source :: second) context) := by
  have settled := (conflictPasses_follow member fresh context).deduplicate
  have raised : IssuesFollow first second source key (builtCandidates (first ++ second) context).2
      (builtCandidates (first ++ copyOf key source :: second) context).2 := by
    rw [builtCandidates, builtCandidates, buildCandidates_issues, buildCandidates_issues]
    exact .flatMap (builtCandidates_follow member fresh) fun _ _ => candidateIssues_follow
  exact (settled.append raised).append (blockedIssues_follow member fresh)

end Candidates

/-! ## The verdict -/

/-- What an analysis lists is attributed to the copy besides, and to nothing else. -/
structure CopyAttributed (first second : List EvidenceSource) (source : EvidenceSource)
    (key : SourceKey) (context : PolicyContext) : Prop where
  observations : List.Forall₂ (fun before after =>
      IndicesGrown first source before.observationIndices after.observationIndices)
    (analyzeTimestampEvidence (first ++ second) context).candidates
    (analyzeTimestampEvidence (first ++ copyOf key source :: second) context).candidates
  issues : IssuesFollow first second source key
    (analyzeTimestampEvidence (first ++ second) context).issues
    (analyzeTimestampEvidence (first ++ copyOf key source :: second) context).issues

theorem copyAttributed (member : source ∈ first ++ second)
    (fresh : key ∉ (first ++ second).map (·.sourceKey)) {context : PolicyContext}
    (within : aggregateWithinLimits (first ++ copyOf key source :: second) context = true) :
    CopyAttributed first second source key context := by
  have within' : aggregateWithinLimits (first ++ second) context = true :=
    aggregateWithinLimits_of_append (aggregateWithinLimits_perm perm_copy context ▸ within)
  constructor
  · rw [analyzeTimestampEvidence_eq within, analyzeTimestampEvidence_eq within']
    dsimp only
    refine forall₂_of_map_eq (sortedCandidates_copy member fresh perm_copy)
      fun before hbefore after hafter same => ?_
    exact indicesGrown_candidate member (fun _ => mem_observationIndices hbefore)
      (fun _ => mem_observationIndices hafter) (congrArg TimeCandidate.timestamp same).symm
  · rw [analyzeTimestampEvidence_eq within, analyzeTimestampEvidence_eq within']
    dsimp only
    exact (allIssues_follow member fresh).deduplicate

/-- A copy changes no verdict, is named only where its source is, and no added source lifts a
candidate above the fields that support it. -/
theorem copies_cannot_vote (sources : List EvidenceSource) (context : PolicyContext) :
    (∀ source ∈ sources, ∀ key ∉ sources.map (·.sourceKey), ∀ enlarged : List EvidenceSource,
      enlarged.Perm (sources ++ [copyOf key source]) →
        aggregateWithinLimits enlarged context = true →
          CopyChangesNothing sources enlarged key context) ∧
    (∀ source ∈ sources, ∀ key ∉ sources.map (·.sourceKey),
      ∀ first second : List EvidenceSource, sources = first ++ second →
        aggregateWithinLimits (first ++ copyOf key source :: second) context = true →
          CopyAttributed first second source key context) ∧
    (∀ (added : EvidenceSource) (enlarged : List EvidenceSource),
      enlarged.Perm (sources ++ [added]) →
        ∀ before ∈ (analyzeTimestampEvidence sources context).candidates,
          ∀ after ∈ (analyzeTimestampEvidence enlarged context).candidates,
            after.timestamp = before.timestamp →
              ∃ atom, Supports enlarged after atom ∧
                confidenceRank after.confidence ≤ confidenceRank atom.baseConfidence) := by
  refine ⟨?_, ?_, ?_⟩
  · intro source member key fresh enlarged perm within
    exact copyChangesNothing member fresh perm within
  · rintro source member key fresh first second rfl within
    exact copyAttributed member fresh within
  · intro added enlarged _ before _ after listed _
    exact exists_supports (mem_candidates listed).2

/-! ## What a copy does add -/

/-- A TIFF whose original time names a thirteenth month. -/
def malformedSource : EvidenceSource :=
  { sampleSource with
    report :=
      { sampleSource.report with
        fields := [sampleField .exifDateTimeOriginal 56 "2024:13:06 07:08:09"]
        usage :=
          { sampleSource.report.usage with retainedFieldBytes := 20, fieldsEmitted := 1 } } }

/-- The sample a day later, from another lineage. -/
def laterSource : EvidenceSource :=
  { sampleSource with
    sourceKey := ⟨.filled 4⟩
    lineageKey := ⟨.filled 5⟩
    report :=
      { sampleSource.report with
        fields := [sampleField .exifDateTimeOriginal 56 "2024:05:07 07:08:09",
          sampleField .exifOffsetTimeOriginal 76 "+01:00"] } }

/-- A TIFF whose original time has no offset, from a lineage of its own. -/
def floatingSource (key : SourceKey) (original : String) : EvidenceSource :=
  { malformedSource with
    sourceKey := key
    lineageKey := ⟨key.bytes⟩
    report :=
      { malformedSource.report with fields := [sampleField .exifDateTimeOriginal 56 original] } }

/-- Floating times three and a half hours apart, the last an hour behind the first. -/
def floatingSources : List EvidenceSource :=
  [floatingSource ⟨.filled 4⟩ "2024:05:06 06:08:09",
    floatingSource ⟨.filled 5⟩ "2024:05:06 09:38:09",
    floatingSource ⟨.filled 6⟩ "2024:05:06 07:08:09"]

/-- The copy of a malformed source raises an issue of its own. A copy in front of its source takes
the place of the source in a strong conflict, and can turn its code into that of a possible
timezone. -/
theorem copies_not_only_grow :
    (∃ later ∈ (analyzeTimestampEvidence [malformedSource, copyOf ⟨.filled 3⟩ malformedSource]
        sampleContext).issues,
      ∀ issue ∈ (analyzeTimestampEvidence [malformedSource] sampleContext).issues,
        ¬ IssueGrown [malformedSource] malformedSource ⟨.filled 3⟩ issue later) ∧
    (∃ issue ∈ (analyzeTimestampEvidence [sampleSource, laterSource] sampleContext).issues,
      ∀ later ∈ (analyzeTimestampEvidence
          [copyOf ⟨.filled 3⟩ sampleSource, sampleSource, laterSource] sampleContext).issues,
        ¬ IssueGrown [] sampleSource ⟨.filled 3⟩ issue later) ∧
    ∃ issue ∈ (analyzeTimestampEvidence floatingSources sampleContext).issues,
      ∀ later ∈ (analyzeTimestampEvidence (copyOf ⟨.filled 3⟩
          (floatingSource ⟨.filled 6⟩ "2024:05:06 07:08:09") :: floatingSources)
          sampleContext).issues,
        later.code ≠ issue.code := by
  refine ⟨?_, ?_, by decide +kernel⟩
  · have own : ∃ later ∈ (analyzeTimestampEvidence
        [malformedSource, copyOf ⟨.filled 3⟩ malformedSource] sampleContext).issues,
          later.sourceKeys = [⟨.filled 3⟩] := by decide +kernel
    have old : ∀ issue ∈ (analyzeTimestampEvidence [malformedSource] sampleContext).issues,
        malformedSource.sourceKey ∈ issue.sourceKeys := by decide +kernel
    obtain ⟨later, raised, named⟩ := own
    refine ⟨later, raised, fun issue found grown => ?_⟩
    have here := grown.sources.kept (old issue found)
    rw [named] at here
    revert here
    decide
  · have old : ∃ issue ∈ (analyzeTimestampEvidence [sampleSource, laterSource]
        sampleContext).issues, sampleSource.sourceKey ∈ issue.sourceKeys := by decide +kernel
    have gone : ∀ later ∈ (analyzeTimestampEvidence
        [copyOf ⟨.filled 3⟩ sampleSource, sampleSource, laterSource] sampleContext).issues,
          sampleSource.sourceKey ∉ later.sourceKeys := by decide +kernel
    obtain ⟨issue, raised, named⟩ := old
    exact ⟨issue, raised, fun later found grown =>
      gone later found (grown.sources.kept named)⟩

/-- A conflicting pair, with a copy of its first source behind it and in front of all, and with the
second source added. -/
theorem copies_cannot_vote_laterSource :
    CopyChangesNothing [sampleSource, laterSource]
        [copyOf ⟨.filled 3⟩ sampleSource, sampleSource, laterSource] ⟨.filled 3⟩ sampleContext ∧
      CopyAttributed [sampleSource] [laterSource] sampleSource ⟨.filled 3⟩ sampleContext ∧
      CopyAttributed [] [sampleSource, laterSource] sampleSource ⟨.filled 3⟩ sampleContext ∧
      ∃ before ∈ (analyzeTimestampEvidence [sampleSource] sampleContext).candidates,
        ∃ after ∈ (analyzeTimestampEvidence [sampleSource, laterSource] sampleContext).candidates,
          after.timestamp = before.timestamp ∧
            ∃ atom, Supports [sampleSource, laterSource] after atom ∧
              confidenceRank after.confidence ≤ confidenceRank atom.baseConfidence := by
  obtain ⟨unchanged, attributed, _⟩ :=
    copies_cannot_vote [sampleSource, laterSource] sampleContext
  obtain ⟨_, _, bounded⟩ := copies_cannot_vote [sampleSource] sampleContext
  have fresh : (⟨.filled 3⟩ : SourceKey) ∉ [sampleSource, laterSource].map (·.sourceKey) := by
    decide
  refine ⟨?_, ?_, ?_, ?_⟩
  · exact unchanged sampleSource List.mem_cons_self _ fresh _
      (List.perm_append_singleton _ _).symm (by decide +kernel)
  · exact attributed sampleSource List.mem_cons_self _ fresh [sampleSource] [laterSource] rfl
      (by decide +kernel)
  · exact attributed sampleSource List.mem_cons_self _ fresh [] [sampleSource, laterSource] rfl
      (by decide +kernel)
  · have shared : ∃ before ∈ (analyzeTimestampEvidence [sampleSource] sampleContext).candidates,
        ∃ after ∈ (analyzeTimestampEvidence [sampleSource, laterSource] sampleContext).candidates,
          after.timestamp = before.timestamp := by decide +kernel
    obtain ⟨before, hbefore, after, hafter, same⟩ := shared
    exact ⟨before, hbefore, after, hafter, same,
      bounded laterSource _ (.refl _) before hbefore after hafter same⟩

end Guiying.Time.Policy
