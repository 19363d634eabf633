import Guiying.Time.Policy.Soundness

/-!
# At most one eligible instant

The conflict pass lets strong instants differ by at most the tolerance, and the
last pass blocks neighbours that differ by at most the tolerance. So whenever two
high candidates of an undisputed analysis denote different instants, every high
candidate has such a neighbour, and none stays eligible.
-/

namespace Guiying.Time.Policy

open Guiying.Foundation Guiying.Foundation.SortedSet Guiying.Foundation.MachineInt
open Guiying.Metadata

/-! ## Neighbours -/

theorem nearPairs_cons_cons {tolerance : Int} {left right : Int × List HighCandidate}
    {rest : List (Int × List HighCandidate)} :
    nearPairs tolerance (left :: right :: rest) =
      if saturatingSub right.1 left.1 ≤ tolerance then
        (left.2 ++ right.2) :: nearPairs tolerance (right :: rest)
      else nearPairs tolerance (right :: rest) := by
  rw [nearPairs]

/-- When all instants lie within the tolerance, every one of several has a neighbour. -/
theorem nearPairs_covers {tolerance : Int} {instants : List (Int × List HighCandidate)}
    (close : ∀ left ∈ instants, ∀ right ∈ instants, saturatingSub right.1 left.1 ≤ tolerance)
    (several : 2 ≤ instants.length) {entry : Int × List HighCandidate} (member : entry ∈ instants)
    {high : HighCandidate} (inside : high ∈ entry.2) :
    ∃ pair ∈ nearPairs tolerance instants, high ∈ pair := by
  induction instants with
  | nil => cases member
  | cons left others ih =>
      cases others with
      | nil => simp at several
      | cons right rest =>
          have near := close left (by simp) right (by simp)
          rw [nearPairs_cons_cons, if_pos near]
          have first : ∀ chosen, chosen ∈ left.2 ++ right.2 → chosen = high →
              ∃ pair ∈ (left.2 ++ right.2) :: nearPairs tolerance (right :: rest),
                high ∈ pair :=
            fun chosen here same => ⟨_, List.mem_cons_self, same ▸ here⟩
          rcases List.mem_cons.mp member with rfl | later
          · exact first high (List.mem_append_left _ inside) rfl
          · cases rest with
            | nil =>
                obtain rfl : entry = right := by simpa using later
                exact first high (List.mem_append_right _ inside) rfl
            | cons next more =>
                obtain ⟨pair, found, here⟩ := ih
                  (fun a ha b hb => close a (List.mem_cons_of_mem _ ha) b
                    (List.mem_cons_of_mem _ hb)) (by simp) later
                exact ⟨pair, List.mem_cons_of_mem _ found, here⟩

/-- A pair joins the candidates of two neighbouring instants. -/
theorem exists_of_mem_nearPairs {tolerance : Int} {instants : List (Int × List HighCandidate)}
    {pair : List HighCandidate} (found : pair ∈ nearPairs tolerance instants) :
    ∃ left right, [left, right].Sublist instants ∧ pair = left.2 ++ right.2 := by
  induction instants with
  | nil => cases found
  | cons left others ih =>
      cases others with
      | nil => cases found
      | cons right rest =>
          have later : pair ∈ nearPairs tolerance (right :: rest) →
              ∃ first second, [first, second].Sublist (left :: right :: rest) ∧
                pair = first.2 ++ second.2 := fun here => by
            obtain ⟨first, second, sub, same⟩ := ih here
            exact ⟨first, second, sub.cons left, same⟩
          rw [nearPairs_cons_cons] at found
          split at found
          · rcases List.mem_cons.mp found with rfl | here
            · exact ⟨left, right, by simp, rfl⟩
            · exact later here
          · exact later found

/-! ## High candidates -/

section High

variable {candidates : List TimeCandidate}

/-- A high candidate at its position, with its instant on the nanosecond scale. -/
structure HighAt (candidates : List TimeCandidate) (index : Nat) (candidate : TimeCandidate)
    (value : Int) : Prop where
  located : candidates[index]? = some candidate
  high : candidate.confidence = .high
  total : utcTotalNanoseconds candidate.timestamp = some value

def HighCandidate.of (index : Nat) (candidate : TimeCandidate) (value : Int) : HighCandidate :=
  ⟨evidencePriority candidate.evidenceKinds, value, index, candidate⟩

theorem mem_highCandidates {high : HighCandidate} :
    high ∈ candidates.zipIdx.filterMap highCandidate ↔
      ∃ index candidate value, HighAt candidates index candidate value ∧
        high = .of index candidate value := by
  simp only [List.mem_filterMap, highCandidate, Prod.exists, List.mem_zipIdx_iff_getElem?]
  constructor
  · rintro ⟨candidate, index, located, found⟩
    split at found
    · rename_i level
      obtain ⟨value, total, rfl⟩ := Option.map_eq_some_iff.mp found
      exact ⟨index, candidate, value, ⟨located, level, total⟩, rfl⟩
    · cases found
  · rintro ⟨index, candidate, value, at', rfl⟩
    refine ⟨candidate, index, at'.located, ?_⟩
    rw [if_pos at'.high, at'.total]
    rfl

/-- The last pass looks at a candidate. -/
def Touched (candidates : List TimeCandidate) (context : PolicyContext) (index : Nat) : Prop :=
  ∃ pair ∈ ambiguousPairs candidates context, index ∈ pair.map (·.index)

theorem mem_ambiguousPairs {context : PolicyContext} {pair : List HighCandidate} :
    pair ∈ ambiguousPairs candidates context ↔
      ∃ priority ∈ (candidates.zipIdx.filterMap highCandidate).map (·.priority),
        pair ∈ nearPairs (strongTolerance context) (OrderedMap.groupBy HighCandidate.value
          ((candidates.zipIdx.filterMap highCandidate).filter
            fun high => priority = high.priority)).entries := by
  simp only [ambiguousPairs, OrderedMap.groupBy_values, List.flatMap_map, List.mem_flatMap,
    mem_sortDedup]
  exact Iff.rfl

/-- A high candidate is blocked as soon as some high candidate of its rank denotes another
instant, when all of that rank lie within the tolerance. -/
theorem touched_of_different {context : PolicyContext} {index other : Nat}
    {candidate rival : TimeCandidate} {value rivalValue : Int}
    (own : HighAt candidates index candidate value)
    (rivals : HighAt candidates other rival rivalValue)
    (sameRank : evidencePriority rival.evidenceKinds = evidencePriority candidate.evidenceKinds)
    (close : ∀ index₁ candidate₁ value₁ index₂ candidate₂ value₂,
      HighAt candidates index₁ candidate₁ value₁ → HighAt candidates index₂ candidate₂ value₂ →
      saturatingSub value₂ value₁ ≤ strongTolerance context)
    (different : rivalValue ≠ value) : Touched candidates context index := by
  have ownHigh := mem_highCandidates.mpr ⟨index, candidate, value, own, rfl⟩
  have rivalHigh := mem_highCandidates.mpr ⟨other, rival, rivalValue, rivals, rfl⟩
  let group := (candidates.zipIdx.filterMap highCandidate).filter
    fun high => evidencePriority candidate.evidenceKinds = high.priority
  have inGroup : HighCandidate.of index candidate value ∈ group :=
    List.mem_filter.mpr ⟨ownHigh, by simp [HighCandidate.of]⟩
  have rivalInGroup : HighCandidate.of other rival rivalValue ∈ group :=
    List.mem_filter.mpr ⟨rivalHigh, by simp [HighCandidate.of, sameRank]⟩
  have entries := OrderedMap.groupBy_entries HighCandidate.value group
  have several : 2 ≤ (OrderedMap.groupBy HighCandidate.value group).entries.length := by
    rw [entries, List.length_map]
    exact one_lt_length_sortDedup_iff.mpr ⟨value, List.mem_map_of_mem inGroup, rivalValue,
      List.mem_map_of_mem rivalInGroup, different.symm⟩
  have near : ∀ left ∈ (OrderedMap.groupBy HighCandidate.value group).entries,
      ∀ right ∈ (OrderedMap.groupBy HighCandidate.value group).entries,
        saturatingSub right.1 left.1 ≤ strongTolerance context := by
    intro left hleft right hright
    rw [entries, List.mem_map] at hleft hright
    obtain ⟨leftValue, leftListed, rfl⟩ := hleft
    obtain ⟨rightValue, rightListed, rfl⟩ := hright
    rw [mem_sortDedup, List.mem_map] at leftListed rightListed
    obtain ⟨leftHigh, leftMember, rfl⟩ := leftListed
    obtain ⟨rightHigh, rightMember, rfl⟩ := rightListed
    obtain ⟨_, _, _, leftAt, rfl⟩ := mem_highCandidates.mp (List.mem_filter.mp leftMember).1
    obtain ⟨_, _, _, rightAt, rfl⟩ := mem_highCandidates.mp (List.mem_filter.mp rightMember).1
    exact close _ _ _ _ _ _ leftAt rightAt
  have entry : (value, group.filter fun high => value = high.value) ∈
      (OrderedMap.groupBy HighCandidate.value group).entries := by
    rw [entries, List.mem_map]
    exact ⟨value, mem_sortDedup.mpr (List.mem_map_of_mem inGroup), rfl⟩
  obtain ⟨pair, found, inside⟩ := nearPairs_covers near several entry
    (List.mem_filter.mpr ⟨inGroup, by simp [HighCandidate.of]⟩)
  refine ⟨pair, mem_ambiguousPairs.mpr ⟨_, List.mem_map_of_mem ownHigh, found⟩, ?_⟩
  exact List.mem_map.mpr ⟨_, inside, rfl⟩

/-- A candidate is blocked only beside a high candidate of its rank with another instant. -/
theorem different_of_touched {context : PolicyContext} {index : Nat}
    (touched : Touched candidates context index) :
    ∃ candidate value, HighAt candidates index candidate value ∧
      ∃ other rival rivalValue, HighAt candidates other rival rivalValue ∧
        evidencePriority rival.evidenceKinds = evidencePriority candidate.evidenceKinds ∧
        rivalValue ≠ value := by
  obtain ⟨pair, found, here⟩ := touched
  obtain ⟨priority, _, near⟩ := mem_ambiguousPairs.mp found
  obtain ⟨left, right, sub, rfl⟩ := exists_of_mem_nearPairs near
  let group := (candidates.zipIdx.filterMap highCandidate).filter
    fun high => priority = high.priority
  have entries := OrderedMap.groupBy_entries HighCandidate.value group
  have distinct : left.1 ≠ right.1 := by
    have sorted := (OrderedMap.groupBy HighCandidate.value group).sorted
    have below := sorted.sublist (sub.map Prod.fst)
    simp only [List.map_cons, List.map_nil, List.pairwise_cons, List.mem_singleton,
      forall_eq] at below
    exact below.1.ne
  have read : ∀ entry ∈ [left, right], (∃ high, high ∈ entry.2) ∧ ∀ high ∈ entry.2,
      ∃ index candidate, HighAt candidates index candidate entry.1 ∧
        high = .of index candidate entry.1 ∧
        evidencePriority candidate.evidenceKinds = priority := by
    intro entry member
    have listed := sub.subset member
    rw [entries, List.mem_map] at listed
    obtain ⟨value, valued, rfl⟩ := listed
    rw [mem_sortDedup, List.mem_map] at valued
    obtain ⟨witness, hwitness, same⟩ := valued
    refine ⟨⟨witness, List.mem_filter.mpr ⟨hwitness, by simpa using same.symm⟩⟩,
      fun high inside => ?_⟩
    obtain ⟨inGroup, value_eq⟩ := List.mem_filter.mp inside
    obtain ⟨member, rank⟩ := List.mem_filter.mp inGroup
    obtain ⟨index, candidate, total, at', rfl⟩ := mem_highCandidates.mp member
    rw [decide_eq_true_eq] at value_eq rank
    subst value_eq
    exact ⟨index, candidate, at', rfl, rank.symm⟩
  obtain ⟨⟨leftHigh, leftMember⟩, leftRead⟩ := read left (by simp)
  obtain ⟨⟨rightHigh, rightMember⟩, rightRead⟩ := read right (by simp)
  obtain ⟨high, inside, rfl⟩ := List.mem_map.mp here
  rcases List.mem_append.mp inside with onLeft | onRight
  · obtain ⟨own, candidate, at', rfl, rank⟩ := leftRead high onLeft
    obtain ⟨other, rival, rivalAt, _, rivalRank⟩ := rightRead rightHigh rightMember
    exact ⟨candidate, left.1, at', other, rival, right.1, rivalAt, rivalRank.trans rank.symm,
      distinct.symm⟩
  · obtain ⟨own, candidate, at', rfl, rank⟩ := rightRead high onRight
    obtain ⟨other, rival, rivalAt, _, rivalRank⟩ := leftRead leftHigh leftMember
    exact ⟨candidate, right.1, at', other, rival, left.1, rivalAt, rivalRank.trans rank.symm,
      distinct⟩

/-! ## The blocked list -/

/-- The last pass keeps a candidate in place and opens no gate; it leaves a gate open exactly
when no pair names the candidate. -/
theorem getElem?_foldl_blockNear (pairs : List (List HighCandidate)) {index : Nat}
    {candidate : TimeCandidate} (located : candidates[index]? = some candidate) :
    ∃ gate, (pairs.foldl blockNearCandidatePair candidates)[index]? =
        some { candidate with evidenceGate := gate } ∧
      (gate = .eligible ↔ candidate.evidenceGate = .eligible ∧
        ∀ pair ∈ pairs, index ∉ pair.map (·.index)) := by
  induction pairs generalizing candidates candidate with
  | nil => exact ⟨candidate.evidenceGate, located, by simp⟩
  | cons pair rest ih =>
      have step : (blockNearCandidatePair candidates pair)[index]? =
          some (if index ∈ pair.map (·.index) then
              { candidate with
                evidenceGate :=
                  addGateBlocker candidate.evidenceGate .multipleStrongValuesWithinTolerance }
            else candidate) := by
        rw [blockNearCandidatePair, List.getElem?_mapIdx, located]
        rfl
      rw [List.foldl_cons]
      by_cases named : index ∈ pair.map (·.index)
      · rw [if_pos named] at step
        obtain ⟨gate, found, opens⟩ := ih step
        refine ⟨gate, found, opens.trans ?_⟩
        constructor
        · rintro ⟨open', _⟩
          exact absurd open' (addGateBlocker_ne_eligible _ _)
        · rintro ⟨_, untouched⟩
          exact absurd named (untouched pair List.mem_cons_self)
      · rw [if_neg named] at step
        obtain ⟨gate, found, opens⟩ := ih step
        refine ⟨gate, found, opens.trans (and_congr_right fun _ => ?_)⟩
        rw [List.forall_mem_cons]
        exact (and_iff_right named).symm

theorem length_foldl_blockNear (pairs : List (List HighCandidate)) :
    (pairs.foldl blockNearCandidatePair candidates).length = candidates.length := by
  induction pairs generalizing candidates with
  | nil => rfl
  | cons pair rest ih => rw [List.foldl_cons, ih, blockNearCandidatePair, List.length_mapIdx]

end High

/-- A candidate of the result comes from its own place among the built ones, and is eligible
exactly when it was and the last pass did not touch it. -/
theorem mem_sortedCandidates_iff {sources : List EvidenceSource} {context : PolicyContext}
    {candidate : TimeCandidate} :
    candidate ∈ sortedCandidates sources context ∧ candidate.evidenceGate = .eligible ↔
      ∃ index, (builtCandidates sources context).1[index]? = some candidate ∧
        candidate.evidenceGate = .eligible ∧
        ¬ Touched (builtCandidates sources context).1 context index := by
  rw [sortedCandidates, mem_sortCandidates, blockedCandidates, blockEqualRankNearAmbiguity_fst]
  constructor
  · rintro ⟨member, eligible⟩
    obtain ⟨index, found⟩ := List.mem_iff_getElem?.mp member
    have inside : index < (builtCandidates sources context).1.length := by
      rw [← length_foldl_blockNear (ambiguousPairs (builtCandidates sources context).1 context)]
      exact (List.getElem?_eq_some_iff.mp found).1
    have located := List.getElem?_eq_getElem inside
    obtain ⟨gate, placed, opens⟩ := getElem?_foldl_blockNear
      (ambiguousPairs (builtCandidates sources context).1 context) located
    rw [found] at placed
    cases Option.some.inj placed
    obtain ⟨wasOpen, untouched⟩ := opens.mp eligible
    have gateSame : gate = (builtCandidates sources context).1[index].evidenceGate :=
      (show gate = .eligible from eligible).trans wasOpen.symm
    refine ⟨index, ?_, eligible, ?_⟩
    · rw [located, gateSame]
    · rintro ⟨pair, listed, here⟩
      exact untouched pair listed here
  · rintro ⟨index, located, eligible, untouched⟩
    obtain ⟨gate, placed, opens⟩ := getElem?_foldl_blockNear
      (ambiguousPairs (builtCandidates sources context).1 context) located
    have open' : gate = .eligible := opens.mpr ⟨eligible, fun pair listed here =>
      untouched ⟨pair, listed, here⟩⟩
    rw [open', ← eligible] at placed
    exact ⟨List.mem_of_getElem? placed, eligible⟩

/-! ## High candidates of a quiet analysis -/

/-- The original time outranks every other kind of evidence. -/
theorem evidencePriority_of_original {kinds : List TimeEvidenceKind}
    (original : .exifDateTimeOriginal ∈ kinds) : evidencePriority kinds = 5 := by
  have atMost : ∀ kinds : List TimeEvidenceKind, evidencePriority kinds ≤ 5 := by
    intro kinds
    induction kinds with
    | nil => exact Nat.zero_le 5
    | cons kind rest ih =>
        refine max_le ?_ ih
        cases kind <;> decide
  have atLeast : 5 ≤ evidencePriority kinds := by
    induction kinds with
    | nil => cases original
    | cons kind rest ih =>
        rcases List.mem_cons.mp original with rfl | later
        · exact le_max_left 5 _
        · exact (ih later).trans (le_max_right _ _)
  exact Nat.le_antisymm (atMost kinds) atLeast

theorem UtcInstant.exactNanoseconds_injective : Function.Injective UtcInstant.exactNanoseconds := by
  intro left right same
  have leftNanos := left.nanosecond_lt
  have rightNanos := right.nanosecond_lt
  simp only [UtcInstant.exactNanoseconds, nanosPerSecond] at same leftNanos rightNanos
  refine UtcInstant.orderKey_injective ?_
  rw [UtcInstant.orderKey, UtcInstant.orderKey, show left.unixSeconds = right.unixSeconds by omega,
    show left.nanosecond = right.nanosecond by omega]

/-- A high candidate of a quiet analysis is an original time, and a strong value. -/
structure HighOriginal (sources : List EvidenceSource) (candidate : TimeCandidate) : Prop where
  rank : evidencePriority candidate.evidenceKinds = 5
  original : ∃ source ∈ sources, OriginalValue source.report candidate.timestamp
  strong : ∃ atom ∈ visitedAtoms 0 sources, atom.timestamp = candidate.timestamp ∧
    atom.strong = true

namespace QuietAnalysis

variable {sources : List EvidenceSource} {context : PolicyContext}

theorem highOriginal (quiet : QuietAnalysis sources context) {candidate : TimeCandidate}
    (built : candidate ∈ (builtCandidates sources context).1)
    (high : candidate.confidence = .high) : HighOriginal sources candidate := by
  rw [builtCandidates, settledAtoms_of_quiet quiet] at built
  obtain ⟨first, _, rfl⟩ := mem_buildCandidates.mp built
  obtain ⟨_, _, base⟩ := finishCandidate_high_iff.mp high
  obtain ⟨atom, found, level⟩ := exists_high_of_strongest base
  obtain ⟨member, same⟩ := List.mem_filter.mp found
  have sameTime : atom.timestamp = first.timestamp := (of_decide_eq_true same).symm
  obtain ⟨source, present, _, _, fromOriginal⟩ := quiet.atom_source member
  obtain ⟨reading, kind, _⟩ := fromOriginal level
  rw [sameTime] at reading
  refine ⟨evidencePriority_of_original ?_, ⟨source, present, reading⟩,
    quiet.exists_strongAtom present (.original reading)⟩
  rw [finishCandidate_evidenceKinds, mem_sortDedup, mergedWork, ← kind]
  exact List.mem_map_of_mem found

/-- All high candidates of a quiet analysis have one rank and lie within the tolerance. -/
theorem high_close (quiet : QuietAnalysis sources context) {index₁ index₂ : Nat}
    {candidate₁ candidate₂ : TimeCandidate} {value₁ value₂ : Int}
    (first : HighAt (builtCandidates sources context).1 index₁ candidate₁ value₁)
    (second : HighAt (builtCandidates sources context).1 index₂ candidate₂ value₂) :
    saturatingSub value₂ value₁ ≤ strongTolerance context := by
  obtain ⟨atom₁, member₁, same₁, strong₁⟩ :=
    (quiet.highOriginal (List.mem_of_getElem? first.located) first.high).strong
  obtain ⟨atom₂, member₂, same₂, strong₂⟩ :=
    (quiet.highOriginal (List.mem_of_getElem? second.located) second.high).strong
  by_contra far
  refine quiet.agreement (Or.inr (Or.inl ⟨atom₂, member₂, atom₁, member₁, strong₂, strong₁,
    value₂, value₁, ?_, ?_, not_le.mp far⟩))
  · rw [same₂, second.total]
  · rw [same₁, first.total]

/-- The value of a high candidate is its instant, without rounding. -/
theorem high_value (quiet : QuietAnalysis sources context) {candidate : TimeCandidate}
    (built : candidate ∈ (builtCandidates sources context).1)
    (high : candidate.confidence = .high) {instant : UtcInstant}
    (found : candidate.timestamp.utcInstant = some instant) :
    utcTotalNanoseconds candidate.timestamp = some instant.exactNanoseconds := by
  obtain ⟨source, _, reading⟩ := (quiet.highOriginal built high).original
  exact StrongValue.utcTotal (.original reading) found

/-- In a quiet analysis the last pass looks at a high candidate exactly when another high
candidate denotes another instant. -/
theorem touched_iff (quiet : QuietAnalysis sources context) {index : Nat}
    {candidate : TimeCandidate} {value : Int}
    (own : HighAt (builtCandidates sources context).1 index candidate value) :
    Touched (builtCandidates sources context).1 context index ↔
      ∃ other rival rivalValue, HighAt (builtCandidates sources context).1 other rival rivalValue ∧
        rivalValue ≠ value := by
  constructor
  · intro touched
    obtain ⟨same, sameValue, at', other, rival, rivalValue, rivalAt, _, different⟩ :=
      different_of_touched touched
    have located := own.located
    rw [at'.located] at located
    cases located
    have total := own.total
    rw [at'.total] at total
    cases total
    exact ⟨other, rival, rivalValue, rivalAt, different⟩
  · rintro ⟨other, rival, rivalValue, rivalAt, different⟩
    have ownRank := (quiet.highOriginal (List.mem_of_getElem? own.located) own.high).rank
    have rivalRank :=
      (quiet.highOriginal (List.mem_of_getElem? rivalAt.located) rivalAt.high).rank
    exact touched_of_different own rivalAt (rivalRank.trans ownRank.symm)
      (fun _ _ _ _ _ _ left right => quiet.high_close left right) different

end QuietAnalysis

/-! ## The verdict -/

/-- What an eligible candidate of an analysis is among the built ones. -/
structure EligibleAt (sources : List EvidenceSource) (context : PolicyContext) (index : Nat)
    (candidate : TimeCandidate) (instant : UtcInstant) : Prop where
  quiet : QuietAnalysis sources context
  noConflict : (settledFlags sources context).globalConflict = false
  found : candidate.timestamp.utcInstant = some instant
  at' : HighAt (builtCandidates sources context).1 index candidate instant.exactNanoseconds
  untouched : ¬ Touched (builtCandidates sources context).1 context index

theorem exists_eligibleAt {sources : List EvidenceSource} {context : PolicyContext}
    {candidate : TimeCandidate} (member : candidate ∈ sortedCandidates sources context)
    (eligible : candidate.evidenceGate = .eligible) :
    ∃ index instant, EligibleAt sources context index candidate instant := by
  obtain ⟨index, located, _, untouched⟩ := mem_sortedCandidates_iff.mp ⟨member, eligible⟩
  have built := List.mem_of_getElem? located
  have opened := openCandidate_of_eligible built eligible
  have quiet := quietAnalysis_of_flags opened.noConflict opened.validEvidence
  obtain ⟨instant, found⟩ := Option.isSome_iff_exists.mp opened.instant
  have high : candidate.confidence = .high := by
    obtain ⟨_, _, rfl⟩ := mem_buildCandidates.mp built
    rw [finishCandidate_gate] at eligible
    exact (evidenceGate_eligible eligible).high
  exact ⟨index, instant, quiet, opened.noConflict, found,
    ⟨located, high, quiet.high_value built high found⟩, untouched⟩

/-- Two eligible candidates denote one instant. -/
theorem EligibleAt.unique {sources : List EvidenceSource} {context : PolicyContext}
    {leftIndex rightIndex : Nat} {left right : TimeCandidate} {leftInstant rightInstant : UtcInstant}
    (onLeft : EligibleAt sources context leftIndex left leftInstant)
    (onRight : EligibleAt sources context rightIndex right rightInstant) :
    rightInstant = leftInstant := by
  by_contra different
  refine onLeft.untouched ((onLeft.quiet.touched_iff onLeft.at').mpr
    ⟨rightIndex, right, _, onRight.at', ?_⟩)
  exact fun equal => different (UtcInstant.exactNanoseconds_injective equal)

/-- All eligible candidates denote one instant, and a conflict leaves none eligible. -/
theorem eligible_unique (sources : List EvidenceSource) (context : PolicyContext) :
    (∀ left ∈ (analyzeTimestampEvidence sources context).candidates,
      ∀ right ∈ (analyzeTimestampEvidence sources context).candidates,
        left.evidenceGate = .eligible → right.evidenceGate = .eligible →
          ∃ instant, left.timestamp.utcInstant = some instant ∧
            right.timestamp.utcInstant = some instant) ∧
    ((analyzeTimestampEvidence sources context).decision = .conflict →
      ∀ candidate ∈ (analyzeTimestampEvidence sources context).candidates,
        candidate.evidenceGate ≠ .eligible) := by
  constructor
  · intro left leftMember right rightMember leftEligible rightEligible
    obtain ⟨leftIndex, leftInstant, onLeft⟩ :=
      exists_eligibleAt (mem_candidates leftMember).2 leftEligible
    obtain ⟨rightIndex, rightInstant, onRight⟩ :=
      exists_eligibleAt (mem_candidates rightMember).2 rightEligible
    exact ⟨leftInstant, onLeft.found, onLeft.unique onRight ▸ onRight.found⟩
  · intro decided candidate member eligible
    obtain ⟨within, sorted⟩ := mem_candidates member
    obtain ⟨_, _, onCandidate⟩ := exists_eligibleAt sorted eligible
    rw [analyzeTimestampEvidence_eq within] at decided
    dsimp only at decided
    rw [onCandidate.noConflict, decideCandidates, if_neg (by decide)] at decided
    split at decided
    · cases decided
    · split at decided <;> cases decided

/-- A second camera file, whose clock stood an hour further east. -/
def easternSource : EvidenceSource where
  sourceKey := ⟨.filled 5⟩
  lineageKey := ⟨.filled 6⟩
  binding := .reextractedFromPinnedSource
  report :=
    { sampleSource.report with
      fields := [sampleField .exifDateTimeOriginal 56 "2024:05:06 08:08:09",
        sampleField .exifOffsetTimeOriginal 76 "+02:00"] }

/-- Its local time under the other offset is an hour later. -/
def lateSource : EvidenceSource :=
  { easternSource with
    report :=
      { sampleSource.report with
        fields := [sampleField .exifDateTimeOriginal 56 "2024:05:06 08:08:09",
          sampleField .exifOffsetTimeOriginal 76 "+01:00"] } }

/-- Two different local times are eligible together, as one instant; an hour apart, neither is. -/
theorem eligible_unique_easternSource :
    (∃ left ∈ (analyzeTimestampEvidence [sampleSource, easternSource] sampleContext).candidates,
      ∃ right ∈ (analyzeTimestampEvidence [sampleSource, easternSource] sampleContext).candidates,
        left.timestamp ≠ right.timestamp ∧
          ∃ instant, left.timestamp.utcInstant = some instant ∧
            right.timestamp.utcInstant = some instant) ∧
    ∀ candidate ∈ (analyzeTimestampEvidence [sampleSource, lateSource] sampleContext).candidates,
      candidate.evidenceGate ≠ .eligible := by
  constructor
  · have both : ∃ left ∈
        (analyzeTimestampEvidence [sampleSource, easternSource] sampleContext).candidates, ∃ right ∈
        (analyzeTimestampEvidence [sampleSource, easternSource] sampleContext).candidates,
          left.timestamp ≠ right.timestamp ∧ left.evidenceGate = .eligible ∧
            right.evidenceGate = .eligible := by decide +kernel
    obtain ⟨left, onLeft, right, onRight, different, openLeft, openRight⟩ := both
    have unique := (eligible_unique [sampleSource, easternSource] sampleContext).1
    exact ⟨left, onLeft, right, onRight, different,
      unique left onLeft right onRight openLeft openRight⟩
  · have disputed :
        (analyzeTimestampEvidence [sampleSource, lateSource] sampleContext).decision =
          .conflict := by decide +kernel
    exact (eligible_unique [sampleSource, lateSource] sampleContext).2 disputed

end Guiying.Time.Policy
