import Guiying.Time.Policy.Visit

/-!
# What the conflict passes look for

Each pass compares atoms pairwise in effect: two atoms of one lineage and kind
with different values, two strong instants too far apart, or a floating strong
value too far from another strong value on the wall clock. A pass leaves the
state alone unless such a pair exists, and then it also raises an issue.
-/

namespace Guiying.Time.Policy

open Guiying.Foundation Guiying.Foundation.SortedSet Guiying.Foundation.MachineInt
open Guiying.Metadata

/-! ## Pairwise disagreement -/

/-- Nanoseconds of the wall clock, read as if it were UTC. -/
def wallNanoseconds (timestamp : NormalizedTimestamp) : Int :=
  timestamp.wallTime.naiveUnixSeconds * nanosPerSecond + timestamp.wallTime.nanosecond

/-- Four-digit years never leave the `i128` nanosecond scale. -/
theorem wallTotalNanoseconds_eq (timestamp : NormalizedTimestamp) :
    wallTotalNanoseconds timestamp = some (wallNanoseconds timestamp) := by
  have seconds := timestamp.wallTime.naiveUnixSeconds_bounds
  have nanos := timestamp.wallTime.nanosecond_lt
  unfold nanosPerSecond at nanos
  unfold wallTotalNanoseconds wallNanoseconds
  rw [Option.bind_eq_bind, Option.bind_eq_some_iff]
  refine ⟨timestamp.wallTime.naiveUnixSeconds * nanosPerSecond,
    checkedI128_eq_some.mpr ⟨?_, rfl⟩, checkedI128_eq_some.mpr ⟨?_, rfl⟩⟩ <;>
    simp only [i128Min, i128Max, nanosPerSecond] <;> omega

def strongTolerance (context : PolicyContext) : Int :=
  secondsToNanoseconds (effectiveStrongTolerance context)

def LineageDisagreement (atoms : List Atom) : Prop :=
  ∃ left ∈ atoms, ∃ right ∈ atoms, lineageGroupKey left = lineageGroupKey right ∧
    semanticTimestamp left.timestamp ≠ semanticTimestamp right.timestamp

/-- Two strong values on one scale differ beyond the tolerance. -/
def ExplicitDisagreement (context : PolicyContext) (atoms : List Atom) : Prop :=
  ∃ left ∈ atoms, ∃ right ∈ atoms, left.strong = true ∧ right.strong = true ∧
    ∃ leftTotal rightTotal, utcTotalNanoseconds left.timestamp = some leftTotal ∧
      utcTotalNanoseconds right.timestamp = some rightTotal ∧
      strongTolerance context < saturatingSub leftTotal rightTotal

/-- A floating strong value differs from a strong value on the wall clock. -/
def FloatingDisagreement (context : PolicyContext) (atoms : List Atom) : Prop :=
  ∃ left ∈ atoms, ∃ right ∈ atoms, left.strong = true ∧ right.strong = true ∧
    left.timestamp.utcInstant = none ∧
    (strongTolerance context <
        saturatingSub (wallNanoseconds left.timestamp) (wallNanoseconds right.timestamp) ∨
      strongTolerance context <
        saturatingSub (wallNanoseconds right.timestamp) (wallNanoseconds left.timestamp))

/-! ## What a pass may do -/

def clearConflict (atom : Atom) : Atom := { atom with conflicted := false }

/-- A pass raises conflict flags and appends at most `room` conflict issues, and does neither
unless there is something to `report`. -/
structure ConflictPass (report : Prop) (room : Nat)
    (before after : List Atom × List PolicyIssue) : Prop where
  quiet : ¬ report → after = before
  sameAtoms : after.1.map clearConflict = before.1.map clearConflict
  appended : ∃ extra, after.2 = before.2 ++ extra ∧ extra.length ≤ room ∧
    (∀ issue ∈ extra, marksGlobalConflict issue.code = true ∧
      marksInvalidEvidence issue.code = false) ∧
    (report → extra ≠ [])

namespace ConflictPass

variable {firstReport secondReport : Prop} {firstRoom secondRoom : Nat}
  {before middle after : List Atom × List PolicyIssue}

theorem trans (first : ConflictPass firstReport firstRoom before middle)
    (second : ConflictPass secondReport secondRoom middle after) :
    ConflictPass (firstReport ∨ secondReport) (firstRoom + secondRoom) before after where
  quiet nothing := by
    rw [not_or] at nothing
    rw [second.quiet nothing.2, first.quiet nothing.1]
  sameAtoms := second.sameAtoms.trans first.sameAtoms
  appended := by
    obtain ⟨firstExtra, hfirst, firstLength, firstCodes, firstRaised⟩ := first.appended
    obtain ⟨secondExtra, hsecond, secondLength, secondCodes, secondRaised⟩ := second.appended
    refine ⟨firstExtra ++ secondExtra, ?_, ?_, ?_, ?_⟩
    · rw [hsecond, hfirst, List.append_assoc]
    · rw [List.length_append]
      omega
    · intro issue member
      rcases List.mem_append.mp member with here | here
      · exact firstCodes issue here
      · exact secondCodes issue here
    · rintro (reported | reported) none
      · exact firstRaised reported (List.append_eq_nil_iff.mp none).1
      · exact secondRaised reported (List.append_eq_nil_iff.mp none).2

theorem widen {report : Prop} {room larger : Nat} (pass : ConflictPass report room before after)
    (le : room ≤ larger) : ConflictPass report larger before after where
  quiet := pass.quiet
  sameAtoms := pass.sameAtoms
  appended := by
    obtain ⟨extra, appended, length, rest⟩ := pass.appended
    exact ⟨extra, appended, length.trans le, rest⟩

theorem idle {report : Prop} {room : Nat} {state : List Atom × List PolicyIssue}
    (nothing : ¬ report) : ConflictPass report room state state where
  quiet _ := rfl
  sameAtoms := rfl
  appended := ⟨[], (List.append_nil _).symm, Nat.zero_le room, by simp,
    fun reported => absurd reported nothing⟩

end ConflictPass

theorem map_clearConflict_markConflicted (atoms : List Atom) (indices : List AtomRef) :
    (markConflicted atoms indices).map clearConflict = atoms.map clearConflict := by
  refine List.ext_getElem (by simp [markConflicted]) fun index _ _ => ?_
  simp only [markConflicted, List.getElem_map, List.getElem_mapIdx]
  split <;> rfl

/-- Marking atoms and raising one conflict issue is a pass with something to report. -/
theorem ConflictPass.mark {report : Prop} (reported : report) (atoms : List Atom)
    (issues : List PolicyIssue) (indices : List AtomRef) {issue : PolicyIssue}
    (code : marksGlobalConflict issue.code = true ∧ marksInvalidEvidence issue.code = false) :
    ConflictPass report 1 (atoms, issues) (markConflicted atoms indices, issues ++ [issue]) where
  quiet nothing := absurd reported nothing
  sameAtoms := map_clearConflict_markConflicted atoms indices
  appended := ⟨[issue], rfl, le_refl 1, by simpa using code, by simp⟩

/-! ## Lineages -/

def GroupDisagrees (group : List AtomRef) : Prop :=
  ∃ left ∈ group, ∃ right ∈ group,
    semanticTimestamp left.1.timestamp ≠ semanticTimestamp right.1.timestamp

theorem markLineageGroup_pass (state : List Atom × List PolicyIssue) (group : List AtomRef) :
    ConflictPass (GroupDisagrees group) 1 state (markLineageGroup state group) := by
  have differs : 1 < (sortDedup (group.map fun ref => semanticTimestamp ref.1.timestamp)).length ↔
      GroupDisagrees group := by
    rw [one_lt_length_sortDedup_iff]
    simp [GroupDisagrees]
  unfold markLineageGroup
  by_cases disagrees : GroupDisagrees group
  · simp only [gt_iff_lt, differs.mpr disagrees, if_true]
    exact .mark disagrees _ _ _ ⟨rfl, rfl⟩
  · simp only [gt_iff_lt, mt differs.mp disagrees, if_false]
    exact .idle disagrees

theorem foldl_markLineageGroup_pass (groups : List (List AtomRef))
    (state : List Atom × List PolicyIssue) :
    ConflictPass (∃ group ∈ groups, GroupDisagrees group) groups.length state
      (groups.foldl markLineageGroup state) := by
  induction groups generalizing state with
  | nil => exact .idle (by simp)
  | cons group rest ih =>
      have step := (markLineageGroup_pass state group).trans (ih (markLineageGroup state group))
      rw [List.foldl_cons, List.length_cons, Nat.add_comm]
      simpa using step

theorem exists_zipIdx {α : Type*} {item : α} {items : List α} :
    (∃ index, (item, index) ∈ items.zipIdx) ↔ item ∈ items := by
  conv_rhs => rw [← List.zipIdx_map_fst 0 items, List.mem_map]
  simp

theorem exists_lineageGroup_disagrees {atoms : List Atom} :
    (∃ group ∈ (OrderedMap.groupBy (fun ref : AtomRef => lineageGroupKey ref.1)
      atoms.zipIdx).values, GroupDisagrees group) ↔ LineageDisagreement atoms := by
  simp only [OrderedMap.groupBy_values, List.mem_map, mem_sortDedup]
  constructor
  · rintro ⟨_, ⟨key, _, rfl⟩, left, hleft, right, hright, apart⟩
    simp only [List.mem_filter, decide_eq_true_eq] at hleft hright
    exact ⟨left.1, exists_zipIdx.mp ⟨left.2, hleft.1⟩, right.1, exists_zipIdx.mp ⟨right.2, hright.1⟩,
      hleft.2.symm.trans hright.2, apart⟩
  · rintro ⟨left, hleft, right, hright, sameGroup, apart⟩
    obtain ⟨leftIndex, leftMember⟩ := exists_zipIdx.mpr hleft
    obtain ⟨rightIndex, rightMember⟩ := exists_zipIdx.mpr hright
    refine ⟨_, ⟨lineageGroupKey left, ⟨_, leftMember, rfl⟩, rfl⟩,
      (left, leftIndex), ?_, (right, rightIndex), ?_, apart⟩
    · exact List.mem_filter.mpr ⟨leftMember, by simp⟩
    · exact List.mem_filter.mpr ⟨rightMember, by simpa using sameGroup⟩

theorem markLineageConflicts_pass (atoms : List Atom) (issues : List PolicyIssue) :
    ConflictPass (LineageDisagreement atoms) atoms.length (atoms, issues)
      (markLineageConflicts atoms issues) := by
  have pass := foldl_markLineageGroup_pass
    (OrderedMap.groupBy (fun ref : AtomRef => lineageGroupKey ref.1) atoms.zipIdx).values
    (atoms, issues)
  rw [exists_lineageGroup_disagrees] at pass
  have few : (OrderedMap.groupBy (fun ref : AtomRef => lineageGroupKey ref.1)
      atoms.zipIdx).values.length ≤ atoms.length := by
    rw [OrderedMap.groupBy_values, List.length_map]
    simpa using length_sortDedup_le (atoms.zipIdx.map fun ref => lineageGroupKey ref.1)
  exact pass.widen few

/-! ## Strong values -/

/-- The representatives stand for the strong atoms: same lineage, kind and timestamp. -/
theorem mem_strongRepresentatives {refs : List AtomRef} {ref : AtomRef}
    {seen : List (LineageKey × TimeEvidenceKind × NormalizedTimestamp)}
    (member : ref ∈ strongRepresentatives seen refs) : ref ∈ refs ∧ ref.1.strong = true := by
  induction refs generalizing seen with
  | nil => cases member
  | cons head rest ih =>
      rw [strongRepresentatives] at member
      split at member
      · rename_i taken
        rcases List.mem_cons.mp member with rfl | later
        · exact ⟨List.mem_cons_self, taken.1⟩
        · exact ⟨List.mem_cons_of_mem head (ih later).1, (ih later).2⟩
      · exact ⟨List.mem_cons_of_mem head (ih member).1, (ih member).2⟩

theorem exists_strongRepresentative {refs : List AtomRef} {ref : AtomRef}
    {seen : List (LineageKey × TimeEvidenceKind × NormalizedTimestamp)}
    (member : ref ∈ refs) (strong : ref.1.strong = true) (fresh : representativeKey ref.1 ∉ seen) :
    ∃ representative ∈ strongRepresentatives seen refs,
      representativeKey representative.1 = representativeKey ref.1 := by
  induction refs generalizing seen with
  | nil => cases member
  | cons head rest ih =>
      rw [strongRepresentatives]
      rcases List.mem_cons.mp member with rfl | later
      · rw [if_pos ⟨strong, fresh⟩]
        exact ⟨ref, List.mem_cons_self, rfl⟩
      · split
        · by_cases same : representativeKey ref.1 = representativeKey head.1
          · exact ⟨head, List.mem_cons_self, same.symm⟩
          · have unseen : representativeKey ref.1 ∉ representativeKey head.1 :: seen := by
              simp [same, fresh]
            obtain ⟨representative, found, key⟩ := ih later unseen
            exact ⟨representative, List.mem_cons_of_mem head found, key⟩
        · exact ih later fresh

/-- The timestamps of the representatives are those of the strong atoms. -/
theorem exists_representative_timestamp {atoms : List Atom} {timestamp : NormalizedTimestamp} :
    (∃ ref ∈ strongRepresentatives [] atoms.zipIdx, ref.1.timestamp = timestamp) ↔
      ∃ atom ∈ atoms, atom.strong = true ∧ atom.timestamp = timestamp := by
  constructor
  · rintro ⟨ref, member, rfl⟩
    obtain ⟨present, strong⟩ := mem_strongRepresentatives member
    exact ⟨ref.1, exists_zipIdx.mp ⟨ref.2, present⟩, strong, rfl⟩
  · rintro ⟨atom, present, strong, rfl⟩
    obtain ⟨index, member⟩ := exists_zipIdx.mpr present
    obtain ⟨representative, found, key⟩ :=
      exists_strongRepresentative member strong (List.not_mem_nil (a := representativeKey atom))
    exact ⟨representative, found, congrArg (fun triple => triple.2.2) key⟩

theorem extremes_of_sorted {values : List (Int ×ₗ Nat)} (sorted : values.Pairwise (· ≤ ·)) :
    (values = [] ∧ extremes values = none) ∨
      ∃ first ∈ values, ∃ last ∈ values,
        extremes values = some ((ofLex first).1, (ofLex last).1) ∧
        ∀ entry ∈ values, first ≤ entry ∧ entry ≤ last := by
  cases values with
  | nil => exact Or.inl ⟨rfl, rfl⟩
  | cons first rest =>
      have split := List.dropLast_append_getLast (List.cons_ne_nil first rest)
      refine Or.inr ⟨first, List.mem_cons_self, (first :: rest).getLast (List.cons_ne_nil _ _),
        List.getLast_mem _, ?_, fun entry member => ⟨?_, ?_⟩⟩
      · rw [extremes, List.getLast?_eq_getLast_of_ne_nil (List.cons_ne_nil first rest)]
        rfl
      · rcases List.mem_cons.mp member with rfl | later
        · exact le_refl entry
        · exact List.rel_of_pairwise_cons sorted later
      · rw [← split, List.mem_append, List.mem_singleton] at member
        rw [← split, List.pairwise_append] at sorted
        rcases member with earlier | rfl
        · exact sorted.2.2 entry earlier _ List.mem_cons_self
        · exact le_refl _

/-- The extremes of the values of some atoms bound every value and are values themselves. -/
theorem extremes_sortedValues (value : NormalizedTimestamp → Option Int) (refs : List AtomRef) :
    (extremes (sortedValues value refs) = none ∧
      ∀ ref ∈ refs, value ref.1.timestamp = none) ∨
    ∃ minimum maximum, extremes (sortedValues value refs) = some (minimum, maximum) ∧
      (∃ ref ∈ refs, value ref.1.timestamp = some minimum) ∧
      (∃ ref ∈ refs, value ref.1.timestamp = some maximum) ∧
      ∀ ref ∈ refs, ∀ total, value ref.1.timestamp = some total →
        minimum ≤ total ∧ total ≤ maximum := by
  have sorted : (sortedValues value refs).Pairwise (· ≤ ·) := List.pairwise_insertionSort _ _
  have members : ∀ entry, entry ∈ sortedValues value refs ↔
      ∃ ref ∈ refs, ∃ total, value ref.1.timestamp = some total ∧ toLex (total, ref.2) = entry := by
    intro entry
    rw [sortedValues, List.mem_insertionSort, List.mem_filterMap]
    simp
  rcases extremes_of_sorted sorted with ⟨empty, none⟩ | ⟨first, hfirst, last, hlast, found, bounds⟩
  · refine Or.inl ⟨none, fun ref member => ?_⟩
    cases total : value ref.1.timestamp with
    | none => rfl
    | some total' =>
        have entry := (members _).mpr ⟨ref, member, total', total, rfl⟩
        rw [empty] at entry
        cases entry
  · refine Or.inr ⟨_, _, found, ?_, ?_, fun ref member total valued => ?_⟩
    · obtain ⟨ref, member, total, valued, rfl⟩ := (members first).mp hfirst
      exact ⟨ref, member, valued⟩
    · obtain ⟨ref, member, total, valued, rfl⟩ := (members last).mp hlast
      exact ⟨ref, member, valued⟩
    · have between := bounds _ ((members _).mpr ⟨ref, member, total, valued, rfl⟩)
      exact ⟨Prod.Lex.monotone_fst _ _ between.1, Prod.Lex.monotone_fst _ _ between.2⟩

theorem saturatingSub_mono {left left' right right' : Int} (hleft : left ≤ left')
    (hright : right' ≤ right) : saturatingSub left right ≤ saturatingSub left' right' :=
  saturateI128_mono (by omega)

theorem strongConflictIssue_code (representatives : List AtomRef) (difference : Int)
    (context : PolicyContext) :
    marksGlobalConflict (strongConflictIssue representatives difference context).code = true ∧
      marksInvalidEvidence (strongConflictIssue representatives difference context).code =
        false := by
  unfold strongConflictIssue
  split <;> exact ⟨rfl, rfl⟩

section Strong

variable (atoms : List Atom) (context : PolicyContext) (state : List Atom × List PolicyIssue)

/-- The explicit disagreement, between representatives. -/
theorem explicitDisagreement_iff :
    ExplicitDisagreement context atoms ↔
      ∃ left ∈ strongRepresentatives [] atoms.zipIdx,
        ∃ right ∈ strongRepresentatives [] atoms.zipIdx,
          ∃ leftTotal rightTotal, utcTotalNanoseconds left.1.timestamp = some leftTotal ∧
            utcTotalNanoseconds right.1.timestamp = some rightTotal ∧
            strongTolerance context < saturatingSub leftTotal rightTotal := by
  constructor
  · rintro ⟨left, hleft, right, hright, leftStrong, rightStrong, totals⟩
    obtain ⟨leftRef, foundLeft, sameLeft⟩ :=
      exists_representative_timestamp.mpr ⟨left, hleft, leftStrong, rfl⟩
    obtain ⟨rightRef, foundRight, sameRight⟩ :=
      exists_representative_timestamp.mpr ⟨right, hright, rightStrong, rfl⟩
    exact ⟨leftRef, foundLeft, rightRef, foundRight, by rwa [sameLeft, sameRight]⟩
  · rintro ⟨left, hleft, right, hright, totals⟩
    obtain ⟨leftAtom, foundLeft, leftStrong, sameLeft⟩ :=
      exists_representative_timestamp.mp ⟨left, hleft, rfl⟩
    obtain ⟨rightAtom, foundRight, rightStrong, sameRight⟩ :=
      exists_representative_timestamp.mp ⟨right, hright, rfl⟩
    exact ⟨leftAtom, foundLeft, rightAtom, foundRight, leftStrong, rightStrong,
      by rwa [sameLeft, sameRight]⟩

theorem markExplicitConflicts_pass :
    ConflictPass (ExplicitDisagreement context atoms) 1 state
      (markExplicitConflicts (strongRepresentatives [] atoms.zipIdx) context state) := by
  rw [explicitDisagreement_iff]
  unfold markExplicitConflicts
  rcases extremes_sortedValues utcTotalNanoseconds (strongRepresentatives [] atoms.zipIdx) with
    ⟨none, unvalued⟩ | ⟨minimum, maximum, found, ⟨lowest, hlowest, low⟩, ⟨highest, hhighest, high⟩,
      bounds⟩
  · rw [none]
    refine .idle ?_
    rintro ⟨left, hleft, _, _, leftTotal, _, valued, _⟩
    rw [unvalued left hleft] at valued
    cases valued
  · rw [found]
    change ConflictPass _ 1 state (if strongTolerance context < saturatingSub maximum minimum then _
      else _)
    split
    · rename_i apart
      exact .mark ⟨highest, hhighest, lowest, hlowest, maximum, minimum, high, low, apart⟩ _ _ _
        (strongConflictIssue_code _ _ _)
    · rename_i near
      refine .idle ?_
      rintro ⟨left, hleft, right, hright, leftTotal, rightTotal, leftValued, rightValued, apart⟩
      exact near (apart.trans_le (saturatingSub_mono (bounds left hleft _ leftValued).2
        (bounds right hright _ rightValued).1))

theorem floatingDifference_eq_none {tolerance minimum maximum value : Int}
    (near : floatingDifference tolerance minimum maximum value = none) :
    saturatingSub value minimum ≤ tolerance ∧ saturatingSub maximum value ≤ tolerance := by
  unfold floatingDifference at near
  split at near
  · cases near
  split at near
  · cases near
  · rename_i above below
    exact ⟨not_lt.mp above, not_lt.mp below⟩

theorem floatingDifference_eq_some {tolerance minimum maximum value difference : Int}
    (far : floatingDifference tolerance minimum maximum value = some difference) :
    tolerance < saturatingSub value minimum ∨ tolerance < saturatingSub maximum value := by
  unfold floatingDifference at far
  split at far
  · rename_i above
    exact Or.inl above
  split at far
  · rename_i below
    exact Or.inr below
  · cases far

/-- What `checkFloating` finds: the first floating value too far from an extreme. -/
theorem checkFloating_spec (tolerance minimum maximum : Int) (values : List Int) :
    (checkFloating tolerance minimum maximum (values.map some) = .agree ∧
      ∀ value ∈ values, saturatingSub value minimum ≤ tolerance ∧
        saturatingSub maximum value ≤ tolerance) ∨
    ∃ difference, checkFloating tolerance minimum maximum (values.map some) = .apart difference ∧
      ∃ value ∈ values, tolerance < saturatingSub value minimum ∨
        tolerance < saturatingSub maximum value := by
  induction values with
  | nil => exact Or.inl ⟨rfl, by simp⟩
  | cons value rest ih =>
      rw [List.map_cons, checkFloating]
      cases compared : floatingDifference tolerance minimum maximum value with
      | some difference =>
          exact Or.inr ⟨difference, rfl, value, List.mem_cons_self,
            floatingDifference_eq_some compared⟩
      | none =>
          rcases ih with ⟨agree, near⟩ | ⟨difference, apart, found, member, far⟩
          · refine Or.inl ⟨agree, fun other member => ?_⟩
            rcases List.mem_cons.mp member with rfl | later
            · exact floatingDifference_eq_none compared
            · exact near other later
          · exact Or.inr ⟨difference, apart, found, List.mem_cons_of_mem value member, far⟩

/-- The floating disagreement, between representatives. -/
theorem floatingDisagreement_iff :
    FloatingDisagreement context atoms ↔
      ∃ left ∈ strongRepresentatives [] atoms.zipIdx,
        ∃ right ∈ strongRepresentatives [] atoms.zipIdx, left.1.timestamp.utcInstant = none ∧
          (strongTolerance context < saturatingSub (wallNanoseconds left.1.timestamp)
              (wallNanoseconds right.1.timestamp) ∨
            strongTolerance context < saturatingSub (wallNanoseconds right.1.timestamp)
              (wallNanoseconds left.1.timestamp)) := by
  constructor
  · rintro ⟨left, hleft, right, hright, leftStrong, rightStrong, apart⟩
    obtain ⟨leftRef, foundLeft, sameLeft⟩ :=
      exists_representative_timestamp.mpr ⟨left, hleft, leftStrong, rfl⟩
    obtain ⟨rightRef, foundRight, sameRight⟩ :=
      exists_representative_timestamp.mpr ⟨right, hright, rightStrong, rfl⟩
    exact ⟨leftRef, foundLeft, rightRef, foundRight, by rwa [sameLeft, sameRight]⟩
  · rintro ⟨left, hleft, right, hright, apart⟩
    obtain ⟨leftAtom, foundLeft, leftStrong, sameLeft⟩ :=
      exists_representative_timestamp.mp ⟨left, hleft, rfl⟩
    obtain ⟨rightAtom, foundRight, rightStrong, sameRight⟩ :=
      exists_representative_timestamp.mp ⟨right, hright, rfl⟩
    exact ⟨leftAtom, foundLeft, rightAtom, foundRight, leftStrong, rightStrong,
      by rwa [sameLeft, sameRight]⟩

theorem markFloatingConflicts_pass :
    ConflictPass (FloatingDisagreement context atoms) 1 state
      (markFloatingConflicts (strongRepresentatives [] atoms.zipIdx) context state) := by
  rw [floatingDisagreement_iff]
  unfold markFloatingConflicts
  generalize strongRepresentatives [] atoms.zipIdx = representatives
  have floats : ∀ ref, ref ∈ representatives.filter isFloating ↔
      ref ∈ representatives ∧ ref.1.timestamp.utcInstant = none := by
    simp [List.mem_filter, isFloating]
  by_cases fixed : representatives.filter isFloating = []
  · rw [if_pos fixed]
    refine .idle ?_
    rintro ⟨left, hleft, _, _, floating, _⟩
    have member := (floats left).mpr ⟨hleft, floating⟩
    rw [fixed] at member
    cases member
  · rw [if_neg fixed]
    obtain ⟨witness, hwitness⟩ := List.exists_mem_of_ne_nil _ fixed
    rcases extremes_sortedValues wallTotalNanoseconds representatives with
      ⟨_, unvalued⟩ | ⟨minimum, maximum, found, ⟨lowest, hlowest, low⟩,
        ⟨highest, hhighest, high⟩, bounds⟩
    · have valued := unvalued witness ((floats witness).mp hwitness).1
      rw [wallTotalNanoseconds_eq] at valued
      cases valued
    simp only [wallTotalNanoseconds_eq, Option.some.injEq, forall_eq'] at low high bounds
    rw [found]
    have totals : ((representatives.filter isFloating).map fun ref =>
        wallTotalNanoseconds ref.1.timestamp) =
        ((representatives.filter isFloating).map fun ref =>
          wallNanoseconds ref.1.timestamp).map some := by
      simp [wallTotalNanoseconds_eq]
    simp only [totals]
    rw [show secondsToNanoseconds (effectiveStrongTolerance context) = strongTolerance context from
      rfl]
    rcases checkFloating_spec (strongTolerance context) minimum maximum
        ((representatives.filter isFloating).map fun ref => wallNanoseconds ref.1.timestamp) with
      ⟨agree, near⟩ | ⟨difference, apart, value, hvalue, far⟩
    · rw [agree]
      refine .idle ?_
      rintro ⟨left, hleft, right, hright, floating, above | below⟩
      · refine absurd above (not_lt.mpr ?_)
        exact (saturatingSub_mono (le_refl _) (bounds right hright).1).trans
          (near _ (List.mem_map_of_mem ((floats left).mpr ⟨hleft, floating⟩))).1
      · refine absurd below (not_lt.mpr ?_)
        exact (saturatingSub_mono (bounds right hright).2 (le_refl _)).trans
          (near _ (List.mem_map_of_mem ((floats left).mpr ⟨hleft, floating⟩))).2
    · rw [apart]
      obtain ⟨left, hleft, rfl⟩ := List.mem_map.mp hvalue
      obtain ⟨present, floating⟩ := (floats left).mp hleft
      refine .mark ?_ _ _ _ (strongConflictIssue_code _ _ _)
      rcases far with above | below
      · exact ⟨left, present, lowest, hlowest, floating, Or.inl (by rwa [low])⟩
      · exact ⟨left, present, highest, hhighest, floating, Or.inr (by rwa [high])⟩

end Strong

/-! ## Both passes -/

/-- What the passes read of an atom: neither its indices nor its conflict flag. -/
def essence (atom : Atom) : Atom := { atom with observationIndices := [], conflicted := false }

/-- Every atom of the first list is matched, in essence, in the second. -/
def EssenceSubset (first second : List Atom) : Prop :=
  ∀ atom ∈ first, ∃ other ∈ second, essence other = essence atom

theorem essenceSubset_of_map {first second : List Atom}
    (same : first.map essence = second.map essence) : EssenceSubset first second := by
  intro atom member
  have image : essence atom ∈ second.map essence := by
    rw [← same]
    exact List.mem_map_of_mem member
  exact List.mem_map.mp image

/-- Every atom of the first list has one in the second that the passes take for the same. -/
def ValueSubset (first second : List Atom) : Prop :=
  ∀ atom ∈ first, ∃ other ∈ second, other.timestamp = atom.timestamp ∧ other.kind = atom.kind ∧
    other.lineageKey = atom.lineageKey ∧ other.strong = atom.strong

theorem EssenceSubset.values {first second : List Atom} (subset : EssenceSubset first second) :
    ValueSubset first second := by
  intro atom member
  obtain ⟨other, found, same⟩ := subset atom member
  have read : ∀ {α : Type} (view : Atom → α), (∀ atom, view (essence atom) = view atom) →
      view other = view atom := by
    intro α view unseen
    rw [← unseen other, same, unseen]
  exact ⟨other, found, read _ fun _ => rfl, read _ fun _ => rfl, read _ fun _ => rfl,
    read _ fun _ => rfl⟩

/-- Some pass finds atoms that disagree. -/
def Disagreement (context : PolicyContext) (atoms : List Atom) : Prop :=
  LineageDisagreement atoms ∨ ExplicitDisagreement context atoms ∨
    FloatingDisagreement context atoms

section Essence

variable {context : PolicyContext} {first second : List Atom}

theorem LineageDisagreement.mono (subset : ValueSubset first second) :
    LineageDisagreement first → LineageDisagreement second := by
  rintro ⟨left, hleft, right, hright, sameGroup, apart⟩
  obtain ⟨left', foundLeft, leftTime, leftKind, leftLineage, _⟩ := subset left hleft
  obtain ⟨right', foundRight, rightTime, rightKind, rightLineage, _⟩ := subset right hright
  refine ⟨left', foundLeft, right', foundRight, ?_, ?_⟩
  · rw [lineageGroupKey, lineageGroupKey, leftKind, leftLineage, rightKind, rightLineage]
    exact sameGroup
  · rwa [leftTime, rightTime]

theorem ExplicitDisagreement.mono (subset : ValueSubset first second) :
    ExplicitDisagreement context first → ExplicitDisagreement context second := by
  rintro ⟨left, hleft, right, hright, leftStrong, rightStrong, apart⟩
  obtain ⟨left', foundLeft, leftTime, _, _, leftSame⟩ := subset left hleft
  obtain ⟨right', foundRight, rightTime, _, _, rightSame⟩ := subset right hright
  exact ⟨left', foundLeft, right', foundRight, leftSame.trans leftStrong,
    rightSame.trans rightStrong, by rwa [leftTime, rightTime]⟩

theorem FloatingDisagreement.mono (subset : ValueSubset first second) :
    FloatingDisagreement context first → FloatingDisagreement context second := by
  rintro ⟨left, hleft, right, hright, leftStrong, rightStrong, apart⟩
  obtain ⟨left', foundLeft, leftTime, _, _, leftSame⟩ := subset left hleft
  obtain ⟨right', foundRight, rightTime, _, _, rightSame⟩ := subset right hright
  exact ⟨left', foundLeft, right', foundRight, leftSame.trans leftStrong,
    rightSame.trans rightStrong, by rwa [leftTime, rightTime]⟩

/-- Whether the passes report anything depends only on the values present. -/
theorem Disagreement.mono (subset : ValueSubset first second) :
    Disagreement context first → Disagreement context second
  | .inl lineage => .inl (lineage.mono subset)
  | .inr (.inl explicit) => .inr (.inl (explicit.mono subset))
  | .inr (.inr floating) => .inr (.inr (floating.mono subset))

end Essence

theorem essence_clearConflict (atom : Atom) : essence (clearConflict atom) = essence atom := rfl

theorem ConflictPass.sameEssence {report : Prop} {room : Nat}
    {before after : List Atom × List PolicyIssue} (pass : ConflictPass report room before after) :
    after.1.map essence = before.1.map essence := by
  have same := congrArg (List.map essence) pass.sameAtoms
  simpa [Function.comp_def, essence_clearConflict] using same

theorem ConflictPass.congr {report report' : Prop} {room : Nat}
    {before after : List Atom × List PolicyIssue} (pass : ConflictPass report room before after)
    (iff : report ↔ report') : ConflictPass report' room before after := by
  rwa [← iff]

/-- The whole of both conflict passes. -/
theorem conflictPasses_pass (pass : AnalysisPass) (context : PolicyContext) :
    ConflictPass (Disagreement context pass.atoms) (pass.atoms.length + 2)
      (pass.atoms, pass.issues) (conflictPasses pass context) := by
  have lineage := markLineageConflicts_pass pass.atoms pass.issues
  have essences := lineage.sameEssence
  have explicit := markExplicitConflicts_pass (markLineageConflicts pass.atoms pass.issues).1
    context (markLineageConflicts pass.atoms pass.issues)
  have floating := markFloatingConflicts_pass (markLineageConflicts pass.atoms pass.issues).1
    context (markExplicitConflicts
      (strongRepresentatives [] (markLineageConflicts pass.atoms pass.issues).1.zipIdx) context
      (markLineageConflicts pass.atoms pass.issues))
  have forward := (essenceSubset_of_map essences).values
  have backward := (essenceSubset_of_map essences.symm).values
  refine (lineage.trans ((explicit.congr ?_).trans (floating.congr ?_))).widen (le_refl _)
  · exact ⟨fun h => h.mono forward, fun h => h.mono backward⟩
  · exact ⟨fun h => h.mono forward, fun h => h.mono backward⟩

end Guiying.Time.Policy
