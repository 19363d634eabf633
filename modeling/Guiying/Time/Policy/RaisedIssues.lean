import Guiying.Time.Policy.Order

/-!
# The issues an analysis raises

The issue lists of the passes in closed form. The conflict passes read no conflict
flag, so their issues are those of the atoms as they were visited: one for each
lineage group that disagrees, and one for each scale on which the strong
representatives lie apart.
-/

namespace Guiying.Time.Policy

open Guiying.Foundation Guiying.Foundation.SortedSet Guiying.Foundation.MachineInt
open Guiying.Metadata

/-! ## Issues about atoms -/

def issueForAtoms (code : PolicyIssueCode) (atoms : List Atom) (context : String) :
    PolicyIssue where
  code := code
  fieldKind := none
  observationIndices := sortDedup (atoms.flatMap (·.observationIndices))
  sourceKeys := sortDedup (atoms.map (·.sourceKey))
  lineageKeys := sortDedup (atoms.map (·.lineageKey))
  context := context

theorem issueForAtomIndices_eq (code : PolicyIssueCode) (refs : List AtomRef) (context : String) :
    issueForAtomIndices code refs context = issueForAtoms code (refs.map Prod.fst) context := by
  simp only [issueForAtomIndices, issueForAtoms, List.flatMap_map, List.map_map]
  rfl

theorem issueForAtoms_clearConflict (code : PolicyIssueCode) (atoms : List Atom)
    (context : String) :
    issueForAtoms code (atoms.map clearConflict) context = issueForAtoms code atoms context := by
  simp only [issueForAtoms, List.flatMap_map, List.map_map]
  rfl

/-! ## Lineages -/

/-- The atoms of one lineage and kind. -/
def lineageGroup (atoms : List Atom) (group : LineageKey ×ₗ TimeEvidenceKind) : List Atom :=
  atoms.filter fun atom => group = lineageGroupKey atom

def lineageDisagrees (atoms : List Atom) : Bool :=
  1 < (sortDedup (atoms.map fun atom => semanticTimestamp atom.timestamp)).length

def lineageIssue (group : List Atom) : PolicyIssue :=
  issueForAtoms .lineageConflict group
    "copy-derived sources in one lineage disagree; copy count cannot vote"

def lineageIssues (atoms : List Atom) : List PolicyIssue :=
  (((sortDedup (atoms.map lineageGroupKey)).map (lineageGroup atoms)).filter lineageDisagrees).map
    lineageIssue

theorem markLineageGroup_issues (state : List Atom × List PolicyIssue) (group : List AtomRef) :
    (markLineageGroup state group).2 = state.2 ++
      ([group.map Prod.fst].filter lineageDisagrees).map lineageIssue := by
  have disagrees : lineageDisagrees (group.map Prod.fst) =
      decide (1 < (sortDedup (group.map fun ref =>
        semanticTimestamp ref.1.timestamp)).length) := by
    rw [lineageDisagrees, List.map_map]
    rfl
  unfold markLineageGroup
  dsimp only
  split
  · rename_i apart
    rw [List.filter_cons_of_pos (by rw [disagrees]; exact decide_eq_true apart)]
    simp [lineageIssue, issueForAtomIndices_eq]
  · rename_i together
    rw [List.filter_cons_of_neg (by rw [disagrees]; simpa using together)]
    simp

theorem foldl_markLineageGroup_issues (groups : List (List AtomRef))
    (state : List Atom × List PolicyIssue) :
    (groups.foldl markLineageGroup state).2 = state.2 ++
      ((groups.map (List.map Prod.fst)).filter lineageDisagrees).map lineageIssue := by
  induction groups generalizing state with
  | nil => simp
  | cons group rest ih =>
      rw [List.foldl_cons, ih, markLineageGroup_issues, List.append_assoc, ← List.map_append,
        ← List.filter_append]
      rfl

theorem map_fst_filter_zipIdx (test : Atom → Bool) (atoms : List Atom) (start : Nat) :
    ((atoms.zipIdx start).filter fun ref => test ref.1).map Prod.fst = atoms.filter test := by
  have moved := List.filter_map (f := Prod.fst) (p := test) (l := atoms.zipIdx start)
  rw [List.zipIdx_map_fst] at moved
  exact moved.symm

theorem markLineageConflicts_issues (atoms : List Atom) (issues : List PolicyIssue) :
    (markLineageConflicts atoms issues).2 = issues ++ lineageIssues atoms := by
  have keys : (atoms.zipIdx.map fun ref => lineageGroupKey ref.1) = atoms.map lineageGroupKey := by
    have moved := congrArg (List.map lineageGroupKey) (List.zipIdx_map_fst 0 atoms)
    rwa [List.map_map] at moved
  rw [markLineageConflicts, foldl_markLineageGroup_issues, OrderedMap.groupBy_values, keys,
    List.map_map]
  congr 3
  exact List.map_congr_left fun group _ =>
    map_fst_filter_zipIdx (fun atom => group = lineageGroupKey atom) atoms 0

/-! ## Strong values -/

/-- The representatives among the atoms themselves. -/
def strongAtoms (seen : List (LineageKey × TimeEvidenceKind × NormalizedTimestamp))
    (atoms : List Atom) : List Atom :=
  (strongRepresentatives seen (atoms.map fun atom => (atom, 0))).map Prod.fst

theorem strongAtoms_new {seen : List (LineageKey × TimeEvidenceKind × NormalizedTimestamp)}
    {atom : Atom} (strong : atom.strong = true) (fresh : representativeKey atom ∉ seen)
    (rest : List Atom) :
    strongAtoms seen (atom :: rest) =
      atom :: strongAtoms (representativeKey atom :: seen) rest := by
  unfold strongAtoms
  rw [List.map_cons, strongRepresentatives, if_pos ⟨strong, fresh⟩, List.map_cons]

theorem strongAtoms_passed {seen : List (LineageKey × TimeEvidenceKind × NormalizedTimestamp)}
    {atom : Atom} (passed : ¬ (atom.strong = true ∧ representativeKey atom ∉ seen))
    (rest : List Atom) : strongAtoms seen (atom :: rest) = strongAtoms seen rest := by
  unfold strongAtoms
  rw [List.map_cons, strongRepresentatives, if_neg passed]

theorem map_fst_strongRepresentatives
    (seen : List (LineageKey × TimeEvidenceKind × NormalizedTimestamp)) (refs : List AtomRef) :
    (strongRepresentatives seen refs).map Prod.fst = strongAtoms seen (refs.map Prod.fst) := by
  induction refs generalizing seen with
  | nil => rfl
  | cons ref rest ih =>
      rw [List.map_cons, strongRepresentatives]
      split
      · rename_i chosen
        rw [List.map_cons, ih, strongAtoms_new chosen.1 chosen.2]
      · rename_i passed
        rw [ih, strongAtoms_passed passed]

/-- A renaming that keeps strength and key commutes with the choice of representatives. -/
theorem strongAtoms_map {rename : Atom → Atom}
    (strong : ∀ atom, (rename atom).strong = atom.strong)
    (same : ∀ atom, representativeKey (rename atom) = representativeKey atom)
    (seen : List (LineageKey × TimeEvidenceKind × NormalizedTimestamp)) (atoms : List Atom) :
    strongAtoms seen (atoms.map rename) = (strongAtoms seen atoms).map rename := by
  induction atoms generalizing seen with
  | nil => rfl
  | cons atom rest ih =>
      rw [List.map_cons]
      by_cases chosen : atom.strong = true ∧ representativeKey atom ∉ seen
      · rw [strongAtoms_new chosen.1 chosen.2, strongAtoms_new ((strong atom).trans chosen.1)
          ((same atom).symm ▸ chosen.2), same, List.map_cons, ih]
      · rw [strongAtoms_passed chosen, strongAtoms_passed (by rwa [strong, same]), ih]

theorem strongAtoms_skip {seen : List (LineageKey × TimeEvidenceKind × NormalizedTimestamp)}
    {middle : List Atom} (after : List Atom)
    (known : ∀ atom ∈ middle, atom.strong = true → representativeKey atom ∈ seen) :
    strongAtoms seen (middle ++ after) = strongAtoms seen after := by
  induction middle with
  | nil => rfl
  | cons atom rest ih =>
      rw [List.cons_append, strongAtoms_passed, ih fun other found =>
        known other (List.mem_cons_of_mem atom found)]
      rintro ⟨strong, fresh⟩
      exact fresh (known atom List.mem_cons_self strong)

/-- Atoms that repeat earlier strong ones are never representatives. -/
theorem strongAtoms_insert {seen : List (LineageKey × TimeEvidenceKind × NormalizedTimestamp)}
    {before middle : List Atom} (after : List Atom)
    (known : ∀ atom ∈ middle, atom.strong = true → representativeKey atom ∈ seen ∨
      ∃ earlier ∈ before, earlier.strong = true ∧
        representativeKey earlier = representativeKey atom) :
    strongAtoms seen (before ++ (middle ++ after)) = strongAtoms seen (before ++ after) := by
  induction before generalizing seen with
  | nil =>
      refine strongAtoms_skip after fun atom found strong => ?_
      rcases known atom found strong with here | ⟨_, absent, _⟩
      · exact here
      · cases absent
  | cons first rest ih =>
      rw [List.cons_append, List.cons_append]
      by_cases chosen : first.strong = true ∧ representativeKey first ∉ seen
      · rw [strongAtoms_new chosen.1 chosen.2, strongAtoms_new chosen.1 chosen.2, ih]
        intro atom found strong
        rcases known atom found strong with here | ⟨earlier, listed, earlierStrong, same⟩
        · exact Or.inl (List.mem_cons_of_mem _ here)
        · rcases List.mem_cons.mp listed with rfl | later
          · exact Or.inl (same ▸ List.mem_cons_self)
          · exact Or.inr ⟨earlier, later, earlierStrong, same⟩
      · rw [strongAtoms_passed chosen, strongAtoms_passed chosen, ih]
        intro atom found strong
        rcases known atom found strong with here | ⟨earlier, listed, earlierStrong, same⟩
        · exact Or.inl here
        · rcases List.mem_cons.mp listed with rfl | later
          · exact Or.inl (same ▸ not_not.mp fun fresh => chosen ⟨earlierStrong, fresh⟩)
          · exact Or.inr ⟨earlier, later, earlierStrong, same⟩

section Representatives

variable {seen more : List (LineageKey × TimeEvidenceKind × NormalizedTimestamp)}
  {atoms before middle after : List Atom} {atom left right : Atom}

theorem mem_strongAtoms (found : atom ∈ strongAtoms seen atoms) :
    atom ∈ atoms ∧ atom.strong = true := by
  obtain ⟨ref, chosen, rfl⟩ := List.mem_map.mp found
  obtain ⟨listed, strong⟩ := mem_strongRepresentatives chosen
  obtain ⟨own, present, rfl⟩ := List.mem_map.mp listed
  exact ⟨present, strong⟩

theorem exists_strongAtom (member : atom ∈ atoms) (strong : atom.strong = true)
    (fresh : representativeKey atom ∉ seen) :
    ∃ chosen ∈ strongAtoms seen atoms, representativeKey chosen = representativeKey atom := by
  have listed : (atom, 0) ∈ atoms.map fun own => (own, 0) := List.mem_map_of_mem member
  obtain ⟨ref, chosen, same⟩ := exists_strongRepresentative listed strong fresh
  exact ⟨ref.1, List.mem_map_of_mem chosen, same⟩

theorem strongAtoms_fresh (found : atom ∈ strongAtoms seen atoms) :
    representativeKey atom ∉ seen := by
  induction atoms generalizing seen with
  | nil => cases found
  | cons head rest ih =>
      by_cases chosen : head.strong = true ∧ representativeKey head ∉ seen
      · rw [strongAtoms_new chosen.1 chosen.2] at found
        rcases List.mem_cons.mp found with rfl | later
        · exact chosen.2
        · exact fun known => ih later (List.mem_cons_of_mem _ known)
      · rw [strongAtoms_passed chosen] at found
        exact ih found

/-- No two representatives have one key. -/
theorem strongAtoms_unique (hleft : left ∈ strongAtoms seen atoms)
    (hright : right ∈ strongAtoms seen atoms)
    (same : representativeKey left = representativeKey right) : left = right := by
  induction atoms generalizing seen with
  | nil => cases hleft
  | cons head rest ih =>
      by_cases chosen : head.strong = true ∧ representativeKey head ∉ seen
      · rw [strongAtoms_new chosen.1 chosen.2, List.mem_cons] at hleft hright
        rcases hleft with rfl | hleft
        · rcases hright with rfl | hright
          · rfl
          · exact absurd (same ▸ List.mem_cons_self) (strongAtoms_fresh hright)
        · rcases hright with rfl | hright
          · exact absurd (same ▸ List.mem_cons_self) (strongAtoms_fresh hleft)
          · exact ih hleft hright
      · rw [strongAtoms_passed chosen] at hleft hright
        exact ih hleft hright

/-- The more is seen, the fewer representatives are left. -/
theorem strongAtoms_subset (known : seen ⊆ more) :
    strongAtoms more atoms ⊆ strongAtoms seen atoms := by
  induction atoms generalizing seen more with
  | nil => exact fun _ found => found
  | cons head rest ih =>
      by_cases chosen : head.strong = true ∧ representativeKey head ∉ more
      · have fresh : representativeKey head ∉ seen := fun here => chosen.2 (known here)
        rw [strongAtoms_new chosen.1 chosen.2, strongAtoms_new chosen.1 fresh]
        exact List.cons_subset_cons _ (ih (List.cons_subset_cons _ known))
      · rw [strongAtoms_passed chosen]
        by_cases new : head.strong = true ∧ representativeKey head ∉ seen
        · have listed : representativeKey head ∈ more :=
            not_not.mp fun fresh => chosen ⟨new.1, fresh⟩
          rw [strongAtoms_new new.1 new.2]
          exact fun other found => List.mem_cons_of_mem head
            (ih (List.cons_subset.mpr ⟨listed, known⟩) found)
        · rw [strongAtoms_passed new]
          exact ih known

/-- What has been seen behind some atoms. -/
def seenBehind (seen : List (LineageKey × TimeEvidenceKind × NormalizedTimestamp))
    (atoms : List Atom) : List (LineageKey × TimeEvidenceKind × NormalizedTimestamp) :=
  ((strongAtoms seen atoms).map representativeKey).reverse ++ seen

theorem strongAtoms_append (seen : List (LineageKey × TimeEvidenceKind × NormalizedTimestamp))
    (before after : List Atom) :
    strongAtoms seen (before ++ after) =
      strongAtoms seen before ++ strongAtoms (seenBehind seen before) after := by
  induction before generalizing seen with
  | nil => rfl
  | cons head rest ih =>
      rw [List.cons_append]
      by_cases chosen : head.strong = true ∧ representativeKey head ∉ seen
      · have behind : seenBehind seen (head :: rest) =
            seenBehind (representativeKey head :: seen) rest := by
          rw [seenBehind, seenBehind, strongAtoms_new chosen.1 chosen.2, List.map_cons,
            List.reverse_cons, List.append_assoc, List.singleton_append]
        rw [strongAtoms_new chosen.1 chosen.2, strongAtoms_new chosen.1 chosen.2, ih, behind,
          List.cons_append]
      · have behind : seenBehind seen (head :: rest) = seenBehind seen rest := by
          rw [seenBehind, seenBehind, strongAtoms_passed chosen]
        rw [strongAtoms_passed chosen, strongAtoms_passed chosen, ih, behind]

/-- Inserted atoms bring no other representative than themselves. -/
theorem mem_strongAtoms_inserted
    (found : atom ∈ strongAtoms seen (before ++ (middle ++ after))) :
    atom ∈ strongAtoms seen (before ++ after) ∨ atom ∈ middle := by
  rw [strongAtoms_append, strongAtoms_append, List.mem_append, List.mem_append] at found
  rw [strongAtoms_append, List.mem_append]
  rcases found with here | here | here
  · exact Or.inl (Or.inl here)
  · exact Or.inr (mem_strongAtoms here).1
  · exact Or.inl (Or.inr (strongAtoms_subset (List.subset_append_right _ _) here))

/-- A representative stays, or an inserted atom of its key stands for it. -/
theorem mem_strongAtoms_replaced (found : atom ∈ strongAtoms seen (before ++ after)) :
    atom ∈ strongAtoms seen (before ++ (middle ++ after)) ∨
      atom ∈ after ∧ ∃ other ∈ middle,
        other ∈ strongAtoms seen (before ++ (middle ++ after)) ∧
          representativeKey other = representativeKey atom := by
  obtain ⟨listed, strong⟩ := mem_strongAtoms found
  have present : atom ∈ before ++ (middle ++ after) := by
    rw [List.mem_append] at listed
    rw [List.mem_append, List.mem_append]
    exact listed.imp_right Or.inr
  obtain ⟨other, chosen, same⟩ := exists_strongAtom present strong (strongAtoms_fresh found)
  rcases mem_strongAtoms_inserted chosen with old | inserted
  · exact Or.inl (strongAtoms_unique found old same.symm ▸ chosen)
  · rw [strongAtoms_append, List.mem_append] at found
    rcases found with here | here
    · rw [strongAtoms_append]
      exact Or.inl (List.mem_append_left _ here)
    · exact Or.inr ⟨(mem_strongAtoms here).1, other, inserted, chosen, same⟩

/-- The keys of the representatives are those of the strong atoms. -/
theorem mem_keys_strongAtoms {value : LineageKey × TimeEvidenceKind × NormalizedTimestamp} :
    value ∈ (strongAtoms [] atoms).map representativeKey ↔
      ∃ atom ∈ atoms, atom.strong = true ∧ representativeKey atom = value := by
  rw [List.mem_map]
  constructor
  · rintro ⟨atom, chosen, rfl⟩
    exact ⟨atom, (mem_strongAtoms chosen).1, (mem_strongAtoms chosen).2, rfl⟩
  · rintro ⟨atom, member, strong, rfl⟩
    exact exists_strongAtom member strong List.not_mem_nil

end Representatives

/-- How far the strong values that carry an offset lie apart, beyond the tolerance. -/
def explicitDifference (refs : List AtomRef) (context : PolicyContext) : Option Int :=
  match extremes (sortedValues utcTotalNanoseconds refs) with
  | none => none
  | some (minimum, maximum) =>
      if saturatingSub maximum minimum >
          secondsToNanoseconds (effectiveStrongTolerance context) then
        some (saturatingSub maximum minimum)
      else none

/-- The first difference found on the wall-clock scale. -/
def floatingDifferenceOf (refs : List AtomRef) (context : PolicyContext) : Option Int :=
  if refs.filter isFloating = [] then none
  else
    match extremes (sortedValues wallTotalNanoseconds refs) with
    | none => none
    | some (minimum, maximum) =>
        match checkFloating (secondsToNanoseconds (effectiveStrongTolerance context))
            minimum maximum ((refs.filter isFloating).map fun ref =>
              wallTotalNanoseconds ref.1.timestamp) with
        | .apart difference => some difference
        | _ => none

def differenceIssues (refs : List AtomRef) (context : PolicyContext) (difference : Option Int) :
    List PolicyIssue :=
  difference.toList.map fun apart => strongConflictIssue refs apart context

theorem markExplicitConflicts_issues (refs : List AtomRef) (context : PolicyContext)
    (state : List Atom × List PolicyIssue) :
    (markExplicitConflicts refs context state).2 =
      state.2 ++ differenceIssues refs context (explicitDifference refs context) := by
  unfold markExplicitConflicts explicitDifference
  cases extremes (sortedValues utcTotalNanoseconds refs) with
  | none => simp [differenceIssues]
  | some ends =>
      dsimp only
      split <;> simp [differenceIssues]

theorem markFloatingConflicts_issues (refs : List AtomRef) (context : PolicyContext)
    (state : List Atom × List PolicyIssue) :
    (markFloatingConflicts refs context state).2 =
      state.2 ++ differenceIssues refs context (floatingDifferenceOf refs context) := by
  unfold markFloatingConflicts floatingDifferenceOf
  dsimp only
  split
  · simp [differenceIssues]
  · cases extremes (sortedValues wallTotalNanoseconds refs) with
    | none => simp [differenceIssues]
    | some ends =>
        dsimp only
        cases checkFloating (secondsToNanoseconds (effectiveStrongTolerance context)) ends.1
          ends.2 ((refs.filter isFloating).map fun ref =>
            wallTotalNanoseconds ref.1.timestamp) <;> simp [differenceIssues]

theorem extremes_of_timestamps (value : NormalizedTimestamp → Option Int)
    {refs others : List AtomRef} (same : SameViews (·.1.timestamp) refs others) :
    extremes (sortedValues value refs) = extremes (sortedValues value others) := by
  have moved : ∀ test : Option Int → Prop, (∃ ref ∈ refs, test (value ref.1.timestamp)) ↔
      ∃ ref ∈ others, test (value ref.1.timestamp) :=
    fun test => same.exists_iff fun timestamp => test (value timestamp)
  rcases extremes_sortedValues value refs with ⟨none, silent⟩ | ⟨low, high, found, hasLow, hasHigh,
    within⟩
  · rcases extremes_sortedValues value others with ⟨none', _⟩ | ⟨low', _, _, hasLow', _⟩
    · rw [none, none']
    · obtain ⟨ref, member, valued⟩ := (moved (· = some low')).mpr hasLow'
      rw [silent ref member] at valued
      cases valued
  · rcases extremes_sortedValues value others with ⟨_, silent'⟩ | ⟨low', high', found', hasLow',
      hasHigh', within'⟩
    · obtain ⟨ref, member, valued⟩ := (moved (· = some low)).mp hasLow
      rw [silent' ref member] at valued
      cases valued
    · obtain ⟨lowRef, lowMember, lowValue⟩ := (moved (· = some low)).mp hasLow
      obtain ⟨highRef, highMember, highValue⟩ := (moved (· = some high)).mp hasHigh
      obtain ⟨lowRef', lowMember', lowValue'⟩ := (moved (· = some low')).mpr hasLow'
      obtain ⟨highRef', highMember', highValue'⟩ := (moved (· = some high')).mpr hasHigh'
      have sameLow : low = low' := le_antisymm (within lowRef' lowMember' low' lowValue').1
        (within' lowRef lowMember low lowValue).1
      have sameHigh : high = high' := le_antisymm (within' highRef highMember high highValue).2
        (within highRef' highMember' high' highValue').2
      rw [found, found', sameLow, sameHigh]

theorem explicitDifference_of_timestamps {refs others : List AtomRef} (context : PolicyContext)
    (same : SameViews (·.1.timestamp) refs others) :
    explicitDifference refs context = explicitDifference others context := by
  rw [explicitDifference, explicitDifference, extremes_of_timestamps _ same]

theorem map_filter_isFloating (refs : List AtomRef) :
    (refs.filter isFloating).map (·.1.timestamp) =
      (refs.map (·.1.timestamp)).filter fun timestamp => timestamp.utcInstant.isNone := by
  rw [List.filter_map]
  rfl

theorem floatingDifferenceOf_of_timestamps {refs others : List AtomRef} (context : PolicyContext)
    (same : refs.map (·.1.timestamp) = others.map (·.1.timestamp)) :
    floatingDifferenceOf refs context = floatingDifferenceOf others context := by
  have floating : (refs.filter isFloating).map (·.1.timestamp) =
      (others.filter isFloating).map (·.1.timestamp) := by
    rw [map_filter_isFloating, map_filter_isFloating, same]
  have empty : refs.filter isFloating = [] ↔ others.filter isFloating = [] := by
    rw [← List.map_eq_nil_iff (f := fun ref : AtomRef => ref.1.timestamp), floating,
      List.map_eq_nil_iff]
  have walls := congrArg (List.map wallTotalNanoseconds) floating
  rw [List.map_map, List.map_map] at walls
  simp only [floatingDifferenceOf, empty, extremes_of_timestamps _ (.of_perm (.of_eq same))]
  congr 1
  cases extremes (sortedValues wallTotalNanoseconds others) with
  | none => rfl
  | some ends =>
      dsimp only
      rw [show ((refs.filter isFloating).map fun ref => wallTotalNanoseconds ref.1.timestamp) =
        (others.filter isFloating).map fun ref => wallTotalNanoseconds ref.1.timestamp from walls]

/-- Some floating value lies too far from an extreme. -/
theorem isSome_floatingDifferenceOf_iff (refs : List AtomRef) (context : PolicyContext) :
    (floatingDifferenceOf refs context).isSome = true ↔
      ∃ minimum maximum, extremes (sortedValues wallTotalNanoseconds refs) =
          some (minimum, maximum) ∧
        ∃ ref ∈ refs, ref.1.timestamp.utcInstant = none ∧
          (strongTolerance context < saturatingSub (wallNanoseconds ref.1.timestamp) minimum ∨
            strongTolerance context <
              saturatingSub maximum (wallNanoseconds ref.1.timestamp)) := by
  have floats : ∀ ref, ref ∈ refs.filter isFloating ↔
      ref ∈ refs ∧ ref.1.timestamp.utcInstant = none := by
    simp [List.mem_filter, isFloating]
  have walls : ((refs.filter isFloating).map fun ref => wallTotalNanoseconds ref.1.timestamp) =
      ((refs.filter isFloating).map fun ref => wallNanoseconds ref.1.timestamp).map some := by
    simp [wallTotalNanoseconds_eq]
  unfold floatingDifferenceOf
  by_cases fixed : refs.filter isFloating = []
  · rw [if_pos fixed]
    refine iff_of_false (by simp) ?_
    rintro ⟨_, _, _, ref, member, floating, _⟩
    have listed := (floats ref).mpr ⟨member, floating⟩
    rw [fixed] at listed
    cases listed
  · rw [if_neg fixed]
    cases extremes (sortedValues wallTotalNanoseconds refs) with
    | none => simp
    | some ends =>
        obtain ⟨minimum, maximum⟩ := ends
        simp only [walls]
        rw [show secondsToNanoseconds (effectiveStrongTolerance context) =
          strongTolerance context from rfl]
        rcases checkFloating_spec (strongTolerance context) minimum maximum
            ((refs.filter isFloating).map fun ref => wallNanoseconds ref.1.timestamp) with
          ⟨agree, near⟩ | ⟨difference, apart, value, hvalue, far⟩
        · rw [agree]
          refine iff_of_false (by simp) ?_
          rintro ⟨_, _, ends, ref, member, floating, far⟩
          cases ends
          have close := near _ (List.mem_map_of_mem ((floats ref).mpr ⟨member, floating⟩))
          exact far.elim (not_lt.mpr close.1) (not_lt.mpr close.2)
        · rw [apart]
          obtain ⟨ref, listed, rfl⟩ := List.mem_map.mp hvalue
          obtain ⟨member, floating⟩ := (floats ref).mp listed
          exact iff_of_true rfl ⟨minimum, maximum, rfl, ref, member, floating, far⟩

/-- Whether a floating value lies apart does not depend on the order. -/
theorem isSome_floatingDifferenceOf_congr {refs others : List AtomRef} (context : PolicyContext)
    (same : SameViews (·.1.timestamp) refs others) :
    (floatingDifferenceOf refs context).isSome = (floatingDifferenceOf others context).isSome := by
  rw [Bool.eq_iff_iff, isSome_floatingDifferenceOf_iff, isSome_floatingDifferenceOf_iff,
    extremes_of_timestamps _ same]
  refine exists_congr fun minimum => exists_congr fun maximum => and_congr_right' ?_
  exact same.exists_iff fun timestamp => timestamp.utcInstant = none ∧
    (strongTolerance context < saturatingSub (wallNanoseconds timestamp) minimum ∨
      strongTolerance context < saturatingSub maximum (wallNanoseconds timestamp))

/-- The issues of the strong pass over representatives. -/
def strongIssues (refs : List AtomRef) (context : PolicyContext) : List PolicyIssue :=
  differenceIssues refs context (explicitDifference refs context) ++
    differenceIssues refs context (floatingDifferenceOf refs context)

theorem markStrongConflicts_issues (atoms : List Atom) (context : PolicyContext)
    (issues : List PolicyIssue) :
    (markStrongConflicts atoms context issues).2 =
      issues ++ strongIssues (strongRepresentatives [] atoms.zipIdx) context := by
  rw [markStrongConflicts, markFloatingConflicts_issues, markExplicitConflicts_issues,
    List.append_assoc, strongIssues]

/-- Both conflict passes raise their issues behind those of the visit. -/
theorem conflictPasses_issues (pass : AnalysisPass) (context : PolicyContext) :
    (conflictPasses pass context).2 = pass.issues ++ lineageIssues pass.atoms ++
      strongIssues (strongRepresentatives []
        (markLineageConflicts pass.atoms pass.issues).1.zipIdx) context := by
  rw [conflictPasses, markStrongConflicts_issues, markLineageConflicts_issues]

/-- The strong pass sees the atoms as they were visited. -/
theorem map_clearConflict_representatives (atoms : List Atom) (issues : List PolicyIssue) :
    ((strongRepresentatives [] (markLineageConflicts atoms issues).1.zipIdx).map Prod.fst).map
        clearConflict =
      (strongAtoms [] atoms).map clearConflict := by
  have strong : ∀ atom, (clearConflict atom).strong = atom.strong := fun _ => rfl
  have sameKey : ∀ atom, representativeKey (clearConflict atom) = representativeKey atom :=
    fun _ => rfl
  rw [map_fst_strongRepresentatives, List.zipIdx_map_fst, ← strongAtoms_map strong sameKey,
    ← strongAtoms_map strong sameKey]
  exact congrArg (strongAtoms []) (markLineageConflicts_pass atoms issues).sameAtoms

/-! ## Candidates -/

/-- The issues raised for a candidate, one for each anomaly that has an issue. -/
def candidateIssues (candidate : TimeCandidate) : List PolicyIssue :=
  candidate.anomalies.filterMap fun anomaly =>
    (anomalyIssue anomaly).map fun raised =>
      { code := raised.1
        fieldKind := none
        observationIndices := candidate.observationIndices
        sourceKeys := candidate.supportingSources
        lineageKeys := candidate.supportingLineages
        context := raised.2 : PolicyIssue }

theorem buildCandidates_issues (atoms : List Atom) (context : PolicyContext)
    (sentinelIndex : SentinelIndex) (flags : AnalysisFlags) :
    (buildCandidates atoms context sentinelIndex flags).2 =
      (buildCandidates atoms context sentinelIndex flags).1.flatMap candidateIssues := by
  simp only [buildCandidates, List.flatMap_map, List.map_map]
  rfl

/-! ## Deduplication -/

/-- An issue without its text, which deduplication does not compare. -/
def withoutText (issue : PolicyIssue) : PolicyIssue := { issue with context := "" }

theorem mem_deduplicateIssues {issues : List PolicyIssue} {seen : PolicyIssue} :
    seen ∈ (deduplicateIssues issues).map withoutText ↔
      ∃ issue ∈ issues, withoutText (canonicalIssue issue) = seen := by
  have blind : ∀ left right : PolicyIssue, ¬ ¬ sameIssue left right →
      withoutText left = withoutText right := by
    intro left right same
    obtain ⟨code, fieldKind, observations, sources, lineages⟩ := not_not.mp same
    simp only [withoutText, code, fieldKind, observations, sources, lineages]
  rw [deduplicateIssues, mem_map_destutter blind]
  simp only [List.mem_map, List.mem_insertionSort, exists_exists_and_eq_and]

end Guiying.Time.Policy
