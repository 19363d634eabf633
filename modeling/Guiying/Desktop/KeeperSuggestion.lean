import Guiying.Foundation.Decimal
import Mathlib.Data.List.Nodup

/-!
# Keeper suggestions

Which member of a group of duplicates the results page suggests to keep, and the
reason it gives. Members are ranked by copy marker, depth of the path, birth time
and ordinal.
-/

namespace Guiying.Desktop

open Guiying.Foundation

/-! ## Names and paths -/

/-- `rsplit_once`: what stands before and after the last separator. -/
def rsplitOnce (separator : Char) (text : List Char) : Option (List Char × List Char) :=
  if separator ∈ text then
    some ((text.reverse.dropWhile (· ≠ separator)).tail.reverse,
      (text.reverse.takeWhile (· ≠ separator)).reverse)
  else none

def trimEnd (text : List Char) : List Char := (text.reverse.dropWhile Decimal.isWhitespace).reverse

def isShortDigitRun (digits : List Char) (maxLen : Nat) : Bool :=
  !digits.isEmpty && decide (Decimal.byteLength digits ≤ maxLen) && digits.all Char.isDigit

def stemOf (fileName : List Char) : List Char :=
  match rsplitOnce '.' fileName with
  | some (stem, _) => if stem.isEmpty then fileName else stem
  | none => fileName

def endsWith (text suffix : List Char) : Bool := suffix.isSuffixOf text

/-- A counter in parentheses, as in `IMG (1)`. -/
def hasParenthesizedCounter (stem : List Char) : Bool :=
  stem.getLast? = some ')' &&
    match rsplitOnce '(' stem.dropLast with
    | some (head, digits) => endsWith head [' '] && isShortDigitRun digits 3
    | none => false

/-- A counter after a space, as in `IMG 2`. -/
def hasSpacedCounter (stem : List Char) : Bool :=
  match rsplitOnce ' ' stem with
  | some (head, tail) => isShortDigitRun tail 2 && !head.isEmpty
  | none => false

def hasCopyMarker (fileName : List Char) : Bool :=
  let stem := trimEnd (stemOf fileName)
  hasParenthesizedCounter stem || hasSpacedCounter stem ||
    endsWith (stem.map Char.toLower) " copy".toList || endsWith stem "-副本".toList ||
    endsWith stem " 副本".toList

def pathDepth (displayPath : List Char) : Nat :=
  ((displayPath.splitOn '/').filter fun part => !part.isEmpty).length

def fileNameOf (displayPath : List Char) : List Char :=
  match rsplitOnce '/' displayPath with
  | some (_, name) => name
  | none => displayPath

example : hasCopyMarker "IMG_4821 (1).HEIC".toList = true := by decide

/-! ## Ranks -/

structure FileTimestampParts where
  seconds : Int
  nanoseconds : Nat
  deriving DecidableEq, Repr

/-- What a suggestion reads of a member of a group. -/
structure DuplicateGroupMemberRecord where
  ordinal : Int
  displayPath : List Char
  birthTime : Option FileTimestampParts
  deriving DecidableEq, Repr

structure KeeperRank where
  hasCopyMarker : Bool
  depth : Nat
  birthTimeSeconds : Int
  ordinal : Int
  deriving DecidableEq, Repr

namespace DuplicateGroupMemberRecord

variable (member : DuplicateGroupMemberRecord)

def marked : Bool := hasCopyMarker (fileNameOf member.displayPath)

def depth : Nat := pathDepth member.displayPath

/-- The seconds of the birth time, or `i64::MAX` where there is none. -/
def birthTimeSeconds : Int := (member.birthTime.map FileTimestampParts.seconds).getD MachineInt.i64Max

def rank : KeeperRank := ⟨member.marked, member.depth, member.birthTimeSeconds, member.ordinal⟩

end DuplicateGroupMemberRecord

namespace KeeperRank

/-- The order of ranks: by marker, depth, birth time and ordinal in turn. -/
def Before (rank other : KeeperRank) : Prop :=
  rank.hasCopyMarker = false ∧ other.hasCopyMarker = true ∨
    rank.hasCopyMarker = other.hasCopyMarker ∧ (rank.depth < other.depth ∨
      rank.depth = other.depth ∧ (rank.birthTimeSeconds < other.birthTimeSeconds ∨
        rank.birthTimeSeconds = other.birthTimeSeconds ∧ rank.ordinal < other.ordinal))

instance (rank other : KeeperRank) : Decidable (rank.Before other) := by
  unfold Before
  infer_instance

end KeeperRank

/-- `Iterator::min`: the first of the least ranks. -/
def least : List KeeperRank → Option KeeperRank
  | [] => none
  | rank :: ranks =>
      match least ranks with
      | some best => if best.Before rank then some best else some rank
      | none => some rank

def uncopiedReason : String := "文件名没有被追加复制序号"

def outerReason : String := "位于更靠外层的目录"

def earliestReason : String := "文件创建时间最早"

def firstReason : String := "扫描顺序中的第一份"

def keeperSuggestionReason (best : KeeperRank) (others : List KeeperRank) : String :=
  if !best.hasCopyMarker && others.any KeeperRank.hasCopyMarker then uncopiedReason
  else if others.any fun other => best.depth < other.depth then outerReason
  else if best.birthTimeSeconds ≠ MachineInt.i64Max ∧
      (others.all fun other => other.birthTimeSeconds ≠ MachineInt.i64Max) ∧
      others.any fun other => best.birthTimeSeconds < other.birthTimeSeconds then earliestReason
  else firstReason

def suggestKeeperFromMembers (members : List DuplicateGroupMemberRecord) : Option (Int × String) :=
  if members.length < 2 then none
  else
    let ranks := members.map DuplicateGroupMemberRecord.rank
    (least ranks).map fun best => (best.ordinal, keeperSuggestionReason best ranks)

/-! ## The least rank -/

section Least

variable {ranks : List KeeperRank} {best rank other : KeeperRank}

theorem least_eq_none : least ranks = none ↔ ranks = [] := by
  cases ranks with
  | nil => exact ⟨fun _ => rfl, fun _ => rfl⟩
  | cons rank ranks =>
      unfold least
      constructor
      · intro none
        split at none
        · split at none
          · cases none
          · cases none
        · cases none
      · intro nil
        cases nil

theorem KeeperRank.Before.trans {third : KeeperRank} (left : rank.Before other)
    (right : other.Before third) : rank.Before third := by
  unfold Before at *
  grind

/-- Any third rank is after the first or before the second. -/
theorem KeeperRank.Before.between (before : rank.Before other) (third : KeeperRank) :
    rank.Before third ∨ third.Before other := by
  unfold Before at *
  grind

theorem KeeperRank.not_before_self (rank : KeeperRank) : ¬ rank.Before rank := by
  unfold Before
  grind

/-- The keys of a rank that no other rank is before. -/
theorem KeeperRank.keys_le (notBefore : ¬ other.Before rank) :
    (other.hasCopyMarker = false → rank.hasCopyMarker = false) ∧
      (other.hasCopyMarker = rank.hasCopyMarker → rank.depth ≤ other.depth) ∧
      (other.hasCopyMarker = rank.hasCopyMarker → other.depth = rank.depth →
        rank.birthTimeSeconds ≤ other.birthTimeSeconds) ∧
      (other.hasCopyMarker = rank.hasCopyMarker → other.depth = rank.depth →
        other.birthTimeSeconds = rank.birthTimeSeconds → rank.ordinal ≤ other.ordinal) := by
  unfold Before at notBefore
  grind

/-- Ranks with different ordinals are ordered. -/
theorem KeeperRank.before_or_before (different : rank.ordinal ≠ other.ordinal) :
    rank.Before other ∨ other.Before rank := by
  unfold Before
  grind

theorem least_spec (found : least ranks = some best) :
    best ∈ ranks ∧ ∀ rank ∈ ranks, ¬ rank.Before best := by
  induction ranks generalizing best with
  | nil => cases found
  | cons first ranks ih =>
      unfold least at found
      cases later : least ranks with
      | none =>
          rw [later] at found
          cases found
          rw [least_eq_none.mp later]
          exact ⟨List.mem_singleton_self _, fun rank inside => by
            rw [List.mem_singleton.mp inside]
            exact KeeperRank.not_before_self _⟩
      | some second =>
          rw [later] at found
          obtain ⟨present, above⟩ := ih later
          dsimp only at found
          split at found
          · rename_i before
            cases found
            refine ⟨List.mem_cons_of_mem _ present, fun rank inside => ?_⟩
            rcases List.mem_cons.mp inside with rfl | inside
            · exact fun back => KeeperRank.not_before_self _ (before.trans back)
            · exact above rank inside
          · rename_i notBefore
            cases found
            refine ⟨List.mem_cons_self, fun rank inside => ?_⟩
            rcases List.mem_cons.mp inside with rfl | inside
            · exact KeeperRank.not_before_self _
            · intro before
              exact (before.between second).elim (above rank inside) notBefore

end Least

/-! ## Truthful suggestions -/

def FileTimestampParts.Before (time other : FileTimestampParts) : Prop :=
  time.seconds < other.seconds ∨ time.seconds = other.seconds ∧ time.nanoseconds < other.nanoseconds

/-- The reason is true of the member with the ordinal. -/
inductive Truthful (members : List DuplicateGroupMemberRecord) (ordinal : Int) (reason : String) :
    Prop
  | intro {member : DuplicateGroupMemberRecord} (inside : member ∈ members)
      (same : member.ordinal = ordinal)
      (uncopied : reason = uncopiedReason →
        member.marked = false ∧ ∃ other ∈ members, other.marked = true)
      (outer : reason = outerReason →
        (∀ other ∈ members, member.depth ≤ other.depth) ∧
          ∃ other ∈ members, member.depth < other.depth)
      (earliest : reason = earliestReason → ∃ birth, member.birthTime = some birth ∧
        (∀ other ∈ members, ∃ time, other.birthTime = some time ∧ ¬ time.Before birth) ∧
          ∃ other ∈ members, ∃ time, other.birthTime = some time ∧ birth.Before time)

/-- The suggestion does not depend on the order of the members, and its reason is true. -/
structure SoundSuggestion (members : List DuplicateGroupMemberRecord) : Prop where
  ordered : ∀ others, others.Perm members →
    suggestKeeperFromMembers others = suggestKeeperFromMembers members
  truthful : ∃ ordinal reason, suggestKeeperFromMembers members = some (ordinal, reason) ∧
    Truthful members ordinal reason

/-- Neither marker nor depth tells the members apart, and their birth times do. -/
structure BirthTimeDecides (members : List DuplicateGroupMemberRecord) : Prop where
  marked : ∀ member ∈ members, ∀ other ∈ members, member.marked = other.marked
  depth : ∀ member ∈ members, ∀ other ∈ members, member.depth = other.depth
  known : ∀ member ∈ members, member.birthTimeSeconds ≠ MachineInt.i64Max
  later : ∃ member ∈ members, ∃ other ∈ members, member.birthTimeSeconds < other.birthTimeSeconds

/-- Where the birth times decide, the first of the members born in the least second is not born after
another of them. -/
def TiesInOrder (members : List DuplicateGroupMemberRecord) : Prop :=
  BirthTimeDecides members → ∀ member ∈ members,
    (∀ other ∈ members, member.birthTimeSeconds ≤ other.birthTimeSeconds) →
    (∀ other ∈ members, other.birthTimeSeconds = member.birthTimeSeconds →
      member.ordinal ≤ other.ordinal) →
    ∀ birth, member.birthTime = some birth → ∀ other ∈ members, ∀ time,
      other.birthTime = some time → time.seconds = birth.seconds →
        birth.nanoseconds ≤ time.nanoseconds

section Suggestions

variable {members others : List DuplicateGroupMemberRecord}
  {member other : DuplicateGroupMemberRecord}

/-- The member whose rank is before every other. -/
structure RanksFirst (members : List DuplicateGroupMemberRecord)
    (member : DuplicateGroupMemberRecord) : Prop where
  inside : member ∈ members
  before : ∀ other ∈ members, ¬ other.rank.Before member.rank

theorem eq_of_ordinal (distinct : (members.map DuplicateGroupMemberRecord.ordinal).Nodup)
    (inside : member ∈ members) (present : other ∈ members)
    (same : member.ordinal = other.ordinal) : member = other :=
  List.inj_on_of_nodup_map distinct inside present same

theorem RanksFirst.unique (distinct : (members.map DuplicateGroupMemberRecord.ordinal).Nodup)
    (first : RanksFirst members member) (also : RanksFirst members other) : member = other := by
  by_contra different
  have apart : member.rank.ordinal ≠ other.rank.ordinal := fun same =>
    different (eq_of_ordinal distinct first.inside also.inside same)
  rcases KeeperRank.before_or_before apart with before | before
  · exact also.before member first.inside before
  · exact first.before other also.inside before

theorem suggest_of_ranksFirst (two : 2 ≤ members.length)
    (distinct : (members.map DuplicateGroupMemberRecord.ordinal).Nodup)
    (first : RanksFirst members member) :
    suggestKeeperFromMembers members = some (member.ordinal,
      keeperSuggestionReason member.rank (members.map DuplicateGroupMemberRecord.rank)) := by
  unfold suggestKeeperFromMembers
  rw [if_neg (Nat.not_lt.mpr two)]
  dsimp only
  cases found : least (members.map DuplicateGroupMemberRecord.rank) with
  | none =>
      have empty := List.map_eq_nil_iff.mp (least_eq_none.mp found)
      rw [empty] at two
      cases two
  | some best =>
      obtain ⟨present, above⟩ := least_spec found
      obtain ⟨chosen, inside, rfl⟩ := List.mem_map.mp present
      have also : RanksFirst members chosen :=
        ⟨inside, fun other there => above other.rank (List.mem_map_of_mem there)⟩
      rw [first.unique distinct also]
      rfl

theorem exists_ranksFirst (nonempty : members ≠ []) : ∃ member, RanksFirst members member := by
  cases found : least (members.map DuplicateGroupMemberRecord.rank) with
  | none => exact absurd (List.map_eq_nil_iff.mp (least_eq_none.mp found)) nonempty
  | some best =>
      obtain ⟨present, above⟩ := least_spec found
      obtain ⟨chosen, inside, rfl⟩ := List.mem_map.mp present
      exact ⟨chosen, inside, fun other there => above other.rank (List.mem_map_of_mem there)⟩

theorem keeperSuggestionReason_perm {ranks others : List KeeperRank} (perm : others.Perm ranks)
    (best : KeeperRank) : keeperSuggestionReason best others = keeperSuggestionReason best ranks := by
  unfold keeperSuggestionReason
  rw [perm.any_eq, perm.any_eq, perm.any_eq, perm.all_eq]

/-- The order of the members makes no difference. -/
theorem suggest_perm (distinct : (members.map DuplicateGroupMemberRecord.ordinal).Nodup)
    (perm : others.Perm members) :
    suggestKeeperFromMembers others = suggestKeeperFromMembers members := by
  by_cases two : 2 ≤ members.length
  · have nonempty : members ≠ [] := by
      intro empty
      rw [empty] at two
      cases two
    obtain ⟨member, first⟩ := exists_ranksFirst nonempty
    have firstToo : RanksFirst others member :=
      ⟨perm.mem_iff.mpr first.inside, fun other there => first.before other (perm.mem_iff.mp there)⟩
    have distinctToo : (others.map DuplicateGroupMemberRecord.ordinal).Nodup :=
      (perm.map _).nodup_iff.mpr distinct
    rw [suggest_of_ranksFirst two distinct first,
      suggest_of_ranksFirst (by rw [perm.length_eq]; exact two) distinctToo firstToo,
      keeperSuggestionReason_perm (perm.map _)]
  · unfold suggestKeeperFromMembers
    rw [perm.length_eq, if_pos (by omega), if_pos (by omega)]

/-! ## What a reason says -/

/-- The three tests in turn, over the members of the group. -/
structure ReasonTests (members : List DuplicateGroupMemberRecord)
    (member : DuplicateGroupMemberRecord) (reason : String) : Prop where
  uncopied : reason = uncopiedReason ↔
    member.marked = false ∧ ∃ other ∈ members, other.marked = true
  outer : reason = outerReason ↔
    ¬ (member.marked = false ∧ ∃ other ∈ members, other.marked = true) ∧
      ∃ other ∈ members, member.depth < other.depth
  earliest : reason = earliestReason ↔
    ¬ (member.marked = false ∧ ∃ other ∈ members, other.marked = true) ∧
      (¬ ∃ other ∈ members, member.depth < other.depth) ∧
        member.birthTimeSeconds ≠ MachineInt.i64Max ∧
          (∀ other ∈ members, other.birthTimeSeconds ≠ MachineInt.i64Max) ∧
            ∃ other ∈ members, member.birthTimeSeconds < other.birthTimeSeconds

theorem reasonTests (members : List DuplicateGroupMemberRecord)
    (member : DuplicateGroupMemberRecord) :
    ReasonTests members member (keeperSuggestionReason member.rank
      (members.map DuplicateGroupMemberRecord.rank)) := by
  have copied : (!member.rank.hasCopyMarker && (members.map
      DuplicateGroupMemberRecord.rank).any KeeperRank.hasCopyMarker) = true ↔
      member.marked = false ∧ ∃ other ∈ members, other.marked = true := by
    rw [Bool.and_eq_true, Bool.not_eq_true', List.any_map, List.any_eq_true]
    rfl
  have deeper : ((members.map DuplicateGroupMemberRecord.rank).any fun other =>
      member.rank.depth < other.depth) = true ↔
      ∃ other ∈ members, member.depth < other.depth := by
    rw [List.any_map, List.any_eq_true]
    simp only [Function.comp_apply, decide_eq_true_eq]
    rfl
  have known : (member.rank.birthTimeSeconds ≠ MachineInt.i64Max ∧
      ((members.map DuplicateGroupMemberRecord.rank).all fun other =>
        other.birthTimeSeconds ≠ MachineInt.i64Max) = true ∧
      ((members.map DuplicateGroupMemberRecord.rank).any fun other =>
        member.rank.birthTimeSeconds < other.birthTimeSeconds) = true) ↔
      member.birthTimeSeconds ≠ MachineInt.i64Max ∧
        (∀ other ∈ members, other.birthTimeSeconds ≠ MachineInt.i64Max) ∧
          ∃ other ∈ members, member.birthTimeSeconds < other.birthTimeSeconds := by
    rw [List.all_map, List.any_map, List.all_eq_true, List.any_eq_true]
    simp only [Function.comp_apply, decide_eq_true_eq]
    rfl
  have one : uncopiedReason ≠ outerReason := by decide
  have two : uncopiedReason ≠ earliestReason := by decide
  have three : outerReason ≠ earliestReason := by decide
  have four : firstReason ≠ uncopiedReason := by decide
  have five : firstReason ≠ outerReason := by decide
  have six : firstReason ≠ earliestReason := by decide
  unfold keeperSuggestionReason
  split
  · rename_i first
    rw [copied] at first
    exact ⟨iff_of_true rfl first, iff_of_false one fun tests => tests.1 first,
      iff_of_false two fun tests => tests.1 first⟩
  · rename_i notFirst
    rw [copied] at notFirst
    split
    · rename_i second
      rw [deeper] at second
      exact ⟨iff_of_false one.symm notFirst, iff_of_true rfl ⟨notFirst, second⟩,
        iff_of_false three fun tests => tests.2.1 second⟩
    · rename_i notSecond
      rw [deeper] at notSecond
      split
      · rename_i third
        rw [known] at third
        exact ⟨iff_of_false two.symm notFirst, iff_of_false three.symm fun tests => notSecond tests.2,
          iff_of_true rfl ⟨notFirst, notSecond, third⟩⟩
      · rename_i notThird
        rw [known] at notThird
        exact ⟨iff_of_false four notFirst, iff_of_false five fun tests => notSecond tests.2,
          iff_of_false six fun tests => notThird tests.2.2⟩

namespace RanksFirst

variable (first : RanksFirst members member)
include first

theorem marked_of_unmarked (present : other ∈ members) (unmarked : other.marked = false) :
    member.marked = false :=
  (KeeperRank.keys_le (first.before other present)).1 unmarked

/-- Of the members with the same marker none is shallower. -/
theorem depth_le (present : other ∈ members) (same : other.marked = member.marked) :
    member.depth ≤ other.depth :=
  (KeeperRank.keys_le (first.before other present)).2.1 same

theorem birthTimeSeconds_le (present : other ∈ members) (same : other.marked = member.marked)
    (depth : other.depth = member.depth) : member.birthTimeSeconds ≤ other.birthTimeSeconds :=
  (KeeperRank.keys_le (first.before other present)).2.2.1 same depth

theorem ordinal_le (present : other ∈ members) (same : other.marked = member.marked)
    (depth : other.depth = member.depth)
    (seconds : other.birthTimeSeconds = member.birthTimeSeconds) :
    member.ordinal ≤ other.ordinal :=
  (KeeperRank.keys_le (first.before other present)).2.2.2 same depth seconds

/-- Unless the suggested member is told apart by its marker, all have the same. -/
theorem marked_eq
    (alike : ¬ (member.marked = false ∧ ∃ other ∈ members, other.marked = true))
    (present : other ∈ members) : other.marked = member.marked := by
  cases own : member.marked with
  | false =>
      cases theirs : other.marked with
      | false => rfl
      | true => exact absurd ⟨own, other, present, theirs⟩ alike
  | true =>
      cases theirs : other.marked with
      | true => rfl
      | false =>
          have unmarked := first.marked_of_unmarked present theirs
          rw [own] at unmarked
          cases unmarked

end RanksFirst

theorem birthTimeSeconds_eq {birth : FileTimestampParts} (known : member.birthTime = some birth) :
    member.birthTimeSeconds = birth.seconds := by
  unfold DuplicateGroupMemberRecord.birthTimeSeconds
  rw [known]
  rfl

theorem exists_birthTime (known : member.birthTimeSeconds ≠ MachineInt.i64Max) :
    ∃ birth, member.birthTime = some birth ∧ birth.seconds = member.birthTimeSeconds := by
  cases found : member.birthTime with
  | some birth => exact ⟨birth, rfl, (birthTimeSeconds_eq found).symm⟩
  | none =>
      unfold DuplicateGroupMemberRecord.birthTimeSeconds at known
      rw [found] at known
      exact absurd rfl known

theorem ne_nil_of_two (two : 2 ≤ members.length) : members ≠ [] := by
  intro empty
  rw [empty] at two
  cases two

theorem tiesInOrder_of_sound (two : 2 ≤ members.length)
    (distinct : (members.map DuplicateGroupMemberRecord.ordinal).Nodup)
    (sound : SoundSuggestion members) : TiesInOrder members := by
  obtain ⟨member, first⟩ := exists_ranksFirst (ne_nil_of_two two)
  have suggested := suggest_of_ranksFirst two distinct first
  have tests := reasonTests members member
  intro decides chosen inside least ties birth born other present time known same
  have chosenFirst : RanksFirst members chosen := by
    refine ⟨inside, fun other there before => ?_⟩
    have marked := decides.marked other there chosen inside
    have depth := decides.depth other there chosen inside
    have seconds := least other there
    have tie := ties other there
    change other.rank.hasCopyMarker = chosen.rank.hasCopyMarker at marked
    change other.rank.depth = chosen.rank.depth at depth
    change chosen.rank.birthTimeSeconds ≤ other.rank.birthTimeSeconds at seconds
    change other.rank.birthTimeSeconds = chosen.rank.birthTimeSeconds →
      chosen.rank.ordinal ≤ other.rank.ordinal at tie
    unfold KeeperRank.Before at before
    grind
  have same' := chosenFirst.unique distinct first
  subst same'
  obtain ⟨early, earlyInside, late, lateInside, earlier⟩ := decides.later
  have alike : ¬ (chosen.marked = false ∧ ∃ other ∈ members, other.marked = true) := by
    rintro ⟨unmarked, marked, there, isMarked⟩
    rw [decides.marked marked there chosen inside, unmarked] at isMarked
    cases isMarked
  have level : ¬ ∃ other ∈ members, chosen.depth < other.depth := by
    rintro ⟨deep, there, deeper⟩
    rw [decides.depth deep there chosen inside] at deeper
    exact Nat.lt_irrefl _ deeper
  have earliest := tests.earliest.mpr ⟨alike, level, decides.known chosen inside, decides.known,
    late, lateInside, Int.lt_of_le_of_lt (least early earlyInside) earlier⟩
  obtain ⟨ordinal, reason, answered, truthful⟩ := sound.truthful
  rw [suggested] at answered
  cases answered
  cases truthful with
  | intro there sameOrdinal _ _ claims =>
      have own := eq_of_ordinal distinct there inside sameOrdinal
      subst own
      obtain ⟨birth', born', notEarlier, -⟩ := claims earliest
      rw [born] at born'
      cases born'
      obtain ⟨time', known', notBefore⟩ := notEarlier other present
      rw [known] at known'
      cases known'
      by_contra less
      exact notBefore (.inr ⟨same, Nat.lt_of_not_le less⟩)

theorem sound_of_tiesInOrder (two : 2 ≤ members.length)
    (distinct : (members.map DuplicateGroupMemberRecord.ordinal).Nodup)
    (ordered : TiesInOrder members) : SoundSuggestion members := by
  obtain ⟨member, first⟩ := exists_ranksFirst (ne_nil_of_two two)
  have suggested := suggest_of_ranksFirst two distinct first
  have tests := reasonTests members member
  refine ⟨fun others perm => suggest_perm distinct perm, _, _, suggested, ?_⟩
  refine .intro first.inside rfl tests.uncopied.mp ?_ ?_
  · intro outer
    obtain ⟨alike, deeper⟩ := tests.outer.mp outer
    exact ⟨fun other present => first.depth_le present (first.marked_eq alike present), deeper⟩
  · intro earliest
    obtain ⟨alike, level, own, known, late, lateInside, later⟩ := tests.earliest.mp earliest
    have marked : ∀ other ∈ members, other.marked = member.marked :=
      fun other present => first.marked_eq alike present
    have depth : ∀ other ∈ members, other.depth = member.depth := by
      intro other present
      have shallow := first.depth_le present (marked other present)
      have notDeeper := Nat.le_of_not_lt fun deeper => level ⟨other, present, deeper⟩
      omega
    have least : ∀ other ∈ members, member.birthTimeSeconds ≤ other.birthTimeSeconds :=
      fun other present => first.birthTimeSeconds_le present (marked other present)
        (depth other present)
    have decides : BirthTimeDecides members :=
      ⟨fun one there other present => (marked one there).trans (marked other present).symm,
        fun one there other present => (depth one there).trans (depth other present).symm,
        known, member, first.inside, late, lateInside, later⟩
    obtain ⟨birth, born, seconds⟩ := exists_birthTime own
    refine ⟨birth, born, fun other present => ?_, late, lateInside, ?_⟩
    · obtain ⟨time, there, otherSeconds⟩ := exists_birthTime (known other present)
      refine ⟨time, there, fun before => ?_⟩
      have notEarlier := least other present
      rcases before with less | ⟨tie, less⟩
      · omega
      · have inOrder := ordered decides member first.inside least
          (fun other there => first.ordinal_le there (marked other there) (depth other there))
          birth born other present time there tie
        omega
    · obtain ⟨time, there, otherSeconds⟩ := exists_birthTime (known late lateInside)
      exact ⟨time, there, .inl (by omega)⟩

/-- The suggestion is sound exactly when the nanoseconds agree with the order of ties. -/
theorem soundSuggestion_iff (two : 2 ≤ members.length)
    (distinct : (members.map DuplicateGroupMemberRecord.ordinal).Nodup) :
    SoundSuggestion members ↔ TiesInOrder members :=
  ⟨tiesInOrder_of_sound two distinct, sound_of_tiesInOrder two distinct⟩

end Suggestions

/-- A member `/photo` with the birth time. -/
def photo (ordinal seconds : Int) (nanoseconds : Nat) : DuplicateGroupMemberRecord :=
  ⟨ordinal, "/photo".toList, some ⟨seconds, nanoseconds⟩⟩

theorem soundSuggestion_twoSeconds : SoundSuggestion [photo 0 10 500, photo 1 20 100] := by
  refine (soundSuggestion_iff (by decide) (by decide)).mpr ?_
  intro _ member inside _ _ birth born other present time known same
  simp only [List.mem_cons, List.not_mem_nil, or_false] at inside present
  rcases inside with rfl | rfl
  all_goals rcases present with rfl | rfl
  all_goals
    cases born
    cases known
    first
      | exact le_refl _
      | cases same

/-- Two members are born in the second 10, and the one with the higher ordinal before the other. -/
theorem sameSecond_notSound :
    suggestKeeperFromMembers [photo 0 10 500, photo 1 10 100, photo 2 20 0] =
        some (0, earliestReason) ∧
      ¬ SoundSuggestion [photo 0 10 500, photo 1 10 100, photo 2 20 0] := by
  have suggested : suggestKeeperFromMembers [photo 0 10 500, photo 1 10 100, photo 2 20 0] =
      some (0, earliestReason) := by decide
  refine ⟨suggested, fun sound => ?_⟩
  obtain ⟨ordinal, reason, answered, truthful⟩ := sound.truthful
  rw [suggested] at answered
  cases answered
  cases truthful with
  | intro inside same _ _ earliest =>
      obtain ⟨birth, born, notEarlier, -⟩ := earliest rfl
      obtain ⟨time, known, notBefore⟩ := notEarlier (photo 1 10 100)
        (List.mem_cons_of_mem _ List.mem_cons_self)
      cases known
      simp only [List.mem_cons, List.not_mem_nil, or_false] at inside
      rcases inside with rfl | rfl | rfl
      · cases born
        exact notBefore (.inr ⟨rfl, by decide⟩)
      · cases same
      · cases same

end Guiying.Desktop
