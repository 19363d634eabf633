import Guiying.Store.EvidenceDigests

/-!
# The encodings of evidence can be read back

Every field that is hashed is a code of its own, so a record that is hashed field
by field is one too, and so are the rows of a list behind it.
-/

namespace Guiying.Store

open Guiying.Foundation ByteString Outcome MachineInt

/-! ## Fields -/

theorem leBytes_prefixFree (width : Nat) :
    PrefixFree {value | value < 256 ^ width} (leBytes width) := by
  refine .of_length (fun value _ => length_leBytes width value) ?_
  intro left isLeft right isRight same
  rw [← readLittleEndian_leBytes isLeft, same, readLittleEndian_leBytes isRight]

theorem i64Bytes_prefixFree : PrefixFree {value | i64Min ≤ value ∧ value ≤ i64Max} i64Bytes := by
  refine (leBytes_prefixFree 8).comap ?_ ?_
  · intro value _
    have below := Int.emod_lt_of_pos value (show (0 : Int) < 2 ^ 64 by norm_num)
    simp only [Set.mem_ofPred_eq]
    omega
  · rintro left ⟨lowLeft, highLeft⟩ right ⟨lowRight, highRight⟩ same
    simp only [i64Min, i64Max] at lowLeft highLeft lowRight highRight
    simp only at same
    omega

theorem int64Bytes_prefixFree : PrefixFree Set.univ int64Bytes := by
  refine i64Bytes_prefixFree.comap (fun value _ => ?_) fun _ _ _ _ same => Int64.toInt_inj.mp same
  have low := value.le_toInt
  have high := value.toInt_lt
  exact ⟨low, by simp only [i64Max]; omega⟩

theorem uint64Bytes_prefixFree :
    PrefixFree Set.univ fun value : UInt64 => leBytes 8 value.toNat :=
  (leBytes_prefixFree 8).comap (fun value _ => value.toNat_lt)
    fun _ _ _ _ same => UInt64.toNat_inj.mp same

theorem uint32Bytes_prefixFree :
    PrefixFree Set.univ fun value : UInt32 => leBytes 4 value.toNat :=
  (leBytes_prefixFree 4).comap (fun value _ => value.toNat_lt)
    fun _ _ _ _ same => UInt32.toNat_inj.mp same

theorem bytes32_prefixFree : PrefixFree Set.univ Bytes32.bytes :=
  .of_length (fun key _ => key.length_eq) fun _ _ _ _ same => Bytes32.ext same

/-- A string of a known length. -/
theorem fixed_prefixFree (width : Nat) :
    PrefixFree {bytes : List UInt8 | bytes.length = width} id :=
  .of_length (fun _ isFixed => isFixed) fun _ _ _ _ same => same

theorem lengthPrefixed_prefixFree :
    PrefixFree {bytes : List UInt8 | bytes.length < u64Bound} lengthPrefixed :=
  .header (leBytes_prefixFree 8)

theorem charBytes_injective : Function.Injective charBytes := by
  intro left right same
  have texts : String.ofList left = String.ofList right := by
    apply String.toByteArray_inj.mp
    rw [String.toByteArray_ofList, String.toByteArray_ofList, List.utf8Encode, List.utf8Encode]
    exact congrArg List.toByteArray same
  simpa using congrArg String.toList texts

theorem textBytes_injective : Function.Injective textBytes :=
  charBytes_injective.comp fun _ _ same => String.toList_inj.mp same

theorem text_prefixFree : PrefixFree {text : String | (textBytes text).length < u64Bound}
    fun text => lengthPrefixed (textBytes text) :=
  lengthPrefixed_prefixFree.comap (fun _ fits => fits) textBytes_injective.injOn

theorem optionalBytes32_prefixFree : PrefixFree Set.univ (optionCode 0 1 Bytes32.bytes) := by
  intro left right _ _
  exact bytes32_prefixFree.option (by decide) (fun _ _ => trivial) fun _ _ => trivial

theorem optionalInt64_prefixFree : PrefixFree Set.univ optionalInt64Bytes := by
  intro left right _ _
  exact int64Bytes_prefixFree.option (by decide) (fun _ _ => trivial) fun _ _ => trivial

theorem checkLength_eq_ok {bytes : List UInt8} {done : Unit} :
    checkLength bytes = .ok done ↔ bytes.length < u64Bound := by
  simp [checkLength, refuse_eq_ok]

/-! ## Rows -/

theorem nextCount_eq_ok {field reason : String} {count next : Nat}
    (counted : nextCount field reason count = .ok next) : next = count + 1 ∧ (next : Int) ≤ i64Max := by
  obtain ⟨_, room, counted⟩ := bind_eq_ok.mp counted
  cases counted
  have room := refuse_eq_ok.mp room
  simp only [decide_eq_false_iff_not, not_lt] at room
  exact ⟨rfl, by exact_mod_cast room⟩

/-- Checked rows are counted, and their number stays below the limit of the counter. -/
theorem checkRows_eq_ok {α : Type} {check : α → Result Unit} {next : Nat → Result Nat} {limit : Int}
    (counts : ∀ count after, next count = .ok after → after = count + 1 ∧ (after : Int) ≤ limit)
    {rows : List α} {count total : Nat} (low : (count : Int) ≤ limit)
    (checked : checkRows check next count rows = .ok total) :
    (∀ row ∈ rows, check row = .ok ()) ∧ total = count + rows.length ∧ (total : Int) ≤ limit := by
  induction rows generalizing count with
  | nil =>
      cases checked
      exact ⟨fun row found => absurd found List.not_mem_nil, rfl, low⟩
  | cons row rest ih =>
      obtain ⟨_, valid, checked⟩ := bind_eq_ok.mp checked
      obtain ⟨after, counted, checked⟩ := bind_eq_ok.mp checked
      obtain ⟨rfl, low⟩ := counts count after counted
      obtain ⟨others, total, limited⟩ := ih low checked
      refine ⟨List.forall_mem_cons.mpr ⟨valid, others⟩, ?_, limited⟩
      rw [total, List.length_cons]
      omega

theorem natBytes_injective {left right : Nat} {s t : List UInt8} (lowLeft : (left : Int) ≤ i64Max)
    (lowRight : (right : Int) ≤ i64Max) (same : i64Bytes left ++ s = i64Bytes right ++ t) :
    left = right ∧ s = t := by
  have isLeft : (left : Int) ∈ {value | i64Min ≤ value ∧ value ≤ i64Max} :=
    ⟨by simp only [i64Min]; omega, lowLeft⟩
  have isRight : (right : Int) ∈ {value | i64Min ≤ value ∧ value ≤ i64Max} :=
    ⟨by simp only [i64Min]; omega, lowRight⟩
  obtain ⟨numbers, follows⟩ := i64Bytes_prefixFree isLeft isRight same
  exact ⟨by exact_mod_cast numbers, follows⟩

/-! ## Exact groups -/

namespace ExactGroupManifestMember

theorem check_eq_ok {member : ExactGroupManifestMember} (checked : member.check = .ok ()) :
    (textBytes member.algorithm).length < u64Bound ∧ member.digest.length < u64Bound := by
  obtain ⟨_, -, checked⟩ := bind_eq_ok.mp checked
  obtain ⟨_, -, checked⟩ := bind_eq_ok.mp checked
  obtain ⟨_, algorithm, digest⟩ := bind_eq_ok.mp checked
  exact ⟨checkLength_eq_ok.mp algorithm, checkLength_eq_ok.mp digest⟩

theorem leafBytes_injOn : Set.InjOn leafBytes {member | member.check = .ok ()} := by
  intro left checkedLeft right checkedRight same
  obtain ⟨textLeft, digestLeft⟩ := check_eq_ok checkedLeft
  obtain ⟨textRight, digestRight⟩ := check_eq_ok checkedRight
  simp only [leafBytes, List.append_assoc] at same
  have same := List.append_cancel_left same
  obtain ⟨ordinal, same⟩ := uint64Bytes_prefixFree trivial trivial same
  obtain ⟨observationId, same⟩ := uint64Bytes_prefixFree trivial trivial same
  obtain ⟨fingerprintId, same⟩ := uint64Bytes_prefixFree trivial trivial same
  obtain ⟨sortRank, same⟩ := uint64Bytes_prefixFree trivial trivial same
  obtain ⟨stablePathKey, same⟩ := bytes32_prefixFree trivial trivial same
  obtain ⟨sourceSignature, same⟩ := bytes32_prefixFree trivial trivial same
  obtain ⟨sizeBytes, same⟩ := uint64Bytes_prefixFree trivial trivial same
  obtain ⟨algorithm, same⟩ := text_prefixFree textLeft textRight same
  obtain ⟨algorithmVersion, same⟩ := uint32Bytes_prefixFree trivial trivial same
  obtain ⟨parametersHash, same⟩ := bytes32_prefixFree trivial trivial same
  obtain ⟨digest, same⟩ := lengthPrefixed_prefixFree digestLeft digestRight same
  have fileObjectKey := optionalBytes32_prefixFree.injOn trivial trivial same
  cases left
  cases right
  simp_all only

end ExactGroupManifestMember

theorem groupManifestBytes_injOn :
    Set.InjOn groupManifestBytes {leaves | checkGroupManifest leaves = .ok ()} := by
  have counted : ∀ leaves, checkGroupManifest leaves = .ok () → leaves.length < 256 ^ 8 := by
    intro leaves checked
    obtain ⟨_, -, checked⟩ := bind_eq_ok.mp checked
    have room := refuse_eq_ok.mp checked
    simp only [decide_eq_false_iff_not, not_le] at room
    exact lt_of_lt_of_eq room (by norm_num [u64Bound])
  intro left checkedLeft right checkedRight same
  simp only [groupManifestBytes, List.append_assoc] at same
  have same := List.append_cancel_left same
  obtain ⟨lengths, same⟩ :=
    leBytes_prefixFree 8 (counted left checkedLeft) (counted right checkedRight) same
  have ends : left.flatMap Bytes32.bytes ++ [] = right.flatMap Bytes32.bytes ++ [] := by rw [same]
  exact (bytes32_prefixFree.flatMap_of_length (fun _ _ => trivial) (fun _ _ => trivial) lengths
    ends).1

namespace ExactFingerprintCommon

theorem check_eq_ok {common : ExactFingerprintCommon} {runKey : String}
    (checked : common.check runKey = .ok ()) :
    (textBytes runKey).length < u64Bound ∧ (textBytes common.algorithm).length < u64Bound ∧
      common.digest.length < u64Bound ∧ 0 ≤ common.algorithmVersion.toInt ∧
      common.algorithmVersion.toInt < u32Bound ∧ 0 ≤ common.sizeBytes.toInt := by
  obtain ⟨_, -, checked⟩ := bind_eq_ok.mp checked
  obtain ⟨_, -, checked⟩ := bind_eq_ok.mp checked
  obtain ⟨_, run, checked⟩ := bind_eq_ok.mp checked
  obtain ⟨_, algorithm, checked⟩ := bind_eq_ok.mp checked
  obtain ⟨_, version, checked⟩ := bind_eq_ok.mp checked
  obtain ⟨_, digest, size⟩ := bind_eq_ok.mp checked
  have version := refuse_eq_ok.mp version
  have size := refuse_eq_ok.mp size
  simp only [decide_eq_false_iff_not, not_or, not_lt, not_le] at version size
  exact ⟨checkLength_eq_ok.mp run, checkLength_eq_ok.mp algorithm, checkLength_eq_ok.mp digest,
    version.1, version.2, size⟩

theorem groupKeyBytes_injective {left right : ExactFingerprintCommon} {leftKey rightKey : String}
    {leftManifest rightManifest : Bytes32} (checkedLeft : left.check leftKey = .ok ())
    (checkedRight : right.check rightKey = .ok ())
    (same : left.groupKeyBytes leftKey leftManifest =
      right.groupKeyBytes rightKey rightManifest) :
    leftKey = rightKey ∧ left = right ∧ leftManifest = rightManifest := by
  obtain ⟨runLeft, textLeft, digestLeft, lowLeft, highLeft, sizeLeft⟩ := check_eq_ok checkedLeft
  obtain ⟨runRight, textRight, digestRight, lowRight, highRight, sizeRight⟩ :=
    check_eq_ok checkedRight
  have narrowLeft := left.sizeBytes.toInt_lt
  have narrowRight := right.sizeBytes.toInt_lt
  simp only [u32Bound] at highLeft highRight
  simp only [groupKeyBytes, List.append_assoc] at same
  have same := List.append_cancel_left same
  obtain ⟨runKey, same⟩ := text_prefixFree runLeft runRight same
  obtain ⟨algorithm, same⟩ := text_prefixFree textLeft textRight same
  have smallLeft : left.algorithmVersion.toInt.toNat < 256 ^ 4 := by omega
  have smallRight : right.algorithmVersion.toInt.toNat < 256 ^ 4 := by omega
  obtain ⟨version, same⟩ := leBytes_prefixFree 4 smallLeft smallRight same
  obtain ⟨parametersHash, same⟩ := bytes32_prefixFree trivial trivial same
  obtain ⟨digest, same⟩ := lengthPrefixed_prefixFree digestLeft digestRight same
  have smallLeft : left.sizeBytes.toInt.toNat < 256 ^ 8 := by omega
  have smallRight : right.sizeBytes.toInt.toNat < 256 ^ 8 := by omega
  obtain ⟨size, same⟩ := leBytes_prefixFree 8 smallLeft smallRight same
  have version : left.algorithmVersion = right.algorithmVersion := Int64.toInt_inj.mp (by omega)
  have size : left.sizeBytes = right.sizeBytes := Int64.toInt_inj.mp (by omega)
  refine ⟨runKey, ?_, Bytes32.ext same⟩
  cases left
  cases right
  simp_all only

end ExactFingerprintCommon

/-! ## Time sessions -/

namespace VerifiedGroupColumns

theorem check_eq_ok {group : VerifiedGroupColumns} (checked : group.check = .ok ()) :
    group.groupKey.length = 32 ∧ group.expectedManifestDigest.length = 32 := by
  have valid := refuse_eq_ok.mp checked
  simp only [decide_eq_false_iff_not, not_or, not_not] at valid
  exact ⟨valid.1, valid.2.1⟩

theorem bytes_prefixFree : PrefixFree {group | group.check = .ok ()} bytes := by
  intro left right checkedLeft checkedRight s t same
  obtain ⟨keyLeft, manifestLeft⟩ := check_eq_ok checkedLeft
  obtain ⟨keyRight, manifestRight⟩ := check_eq_ok checkedRight
  simp only [bytes, List.append_assoc] at same
  obtain ⟨id, same⟩ := int64Bytes_prefixFree trivial trivial same
  obtain ⟨groupKey, same⟩ := fixed_prefixFree 32 keyLeft keyRight same
  obtain ⟨expectedMemberCount, same⟩ := int64Bytes_prefixFree trivial trivial same
  obtain ⟨expectedManifestDigest, same⟩ := fixed_prefixFree 32 manifestLeft manifestRight same
  refine ⟨?_, same⟩
  cases left
  cases right
  simp_all only

theorem length_bytes {group : VerifiedGroupColumns} (checked : group.check = .ok ()) :
    group.bytes.length = 80 := by
  obtain ⟨key, manifest⟩ := check_eq_ok checked
  simp [bytes, int64Bytes, i64Bytes, key, manifest]

end VerifiedGroupColumns

theorem checkTimeScope_eq_ok {scanRunId : Int64} {groups : List VerifiedGroupColumns} {count : Nat}
    (checked : checkTimeScope scanRunId groups = .ok count) :
    (∀ group ∈ groups, group.check = .ok ()) ∧ count = groups.length ∧ (count : Int) ≤ i64Max := by
  obtain ⟨_, -, checked⟩ := bind_eq_ok.mp checked
  obtain ⟨valid, total, limited⟩ :=
    checkRows_eq_ok (fun _ _ => nextCount_eq_ok) (by decide) checked
  exact ⟨valid, by omega, limited⟩

/-- The count stands at the end; the rows are told from it by their length. -/
theorem timeScopeBytes_injective {leftRun rightRun : Int64}
    {left right : List VerifiedGroupColumns} {leftCount rightCount : Nat}
    (checkedLeft : checkTimeScope leftRun left = .ok leftCount)
    (checkedRight : checkTimeScope rightRun right = .ok rightCount)
    (same : timeScopeBytes leftRun left = timeScopeBytes rightRun right) :
    leftRun = rightRun ∧ left = right := by
  obtain ⟨validLeft, -, -⟩ := checkTimeScope_eq_ok checkedLeft
  obtain ⟨validRight, -, -⟩ := checkTimeScope_eq_ok checkedRight
  simp only [timeScopeBytes, List.append_assoc] at same
  have same := List.append_cancel_left same
  obtain ⟨scanRunId, same⟩ := int64Bytes_prefixFree trivial trivial same
  have ends : (i64Bytes left.length).length = (i64Bytes right.length).length := by simp [i64Bytes]
  obtain ⟨groups, -⟩ := VerifiedGroupColumns.bytes_prefixFree.flatMap_of_longer
    (fun group checked => (VerifiedGroupColumns.length_bytes checked).ge) validLeft validRight
    (by omega) (by omega) same
  exact ⟨scanRunId, groups⟩

/-! ## The outcomes of a time session -/

theorem leBytes_add (low high value : Nat) :
    leBytes (low + high) value = leBytes low value ++ leBytes high (value / 256 ^ low) := by
  induction low generalizing value with
  | zero => simp [leBytes]
  | succ low ih =>
      rw [Nat.add_right_comm, leBytes, ih, leBytes, Nat.div_div_eq_div_mul, List.cons_append,
        Nat.pow_succ']

theorem i64Bytes_of_nat {value : Nat} (small : value < 2 ^ 63) :
    i64Bytes value = leBytes 8 value := by
  have same : (value : Int) % 2 ^ 64 = value := Int.emod_eq_of_lt (by omega) (by omega)
  rw [i64Bytes, same, Int.toNat_natCast]

theorem MemberTimeColumns.bytes_prefixFree : PrefixFree Set.univ MemberTimeColumns.bytes := by
  intro left right _ _ s t same
  simp only [bytes, List.cons_append, List.append_assoc] at same
  injection same with _ same
  obtain ⟨memberOrdinal, same⟩ := int64Bytes_prefixFree trivial trivial same
  obtain ⟨observationId, same⟩ := int64Bytes_prefixFree trivial trivial same
  obtain ⟨birthTimeSeconds, same⟩ := optionalInt64_prefixFree trivial trivial same
  obtain ⟨birthTimeNanoseconds, same⟩ := optionalInt64_prefixFree trivial trivial same
  obtain ⟨modifiedTimeSeconds, same⟩ := int64Bytes_prefixFree trivial trivial same
  obtain ⟨modifiedTimeNanoseconds, same⟩ := int64Bytes_prefixFree trivial trivial same
  obtain ⟨timestampGranularityNs, same⟩ := optionalInt64_prefixFree trivial trivial same
  refine ⟨?_, same⟩
  cases left
  cases right
  simp_all only

theorem MemberTimeColumns.bytes_opens (member : MemberTimeColumns) (t : List UInt8) :
    ∃ tail, member.bytes ++ t = 0xA7 :: (int64Bytes member.memberOrdinal ++ tail) := by
  refine ⟨int64Bytes member.observationId ++ (optionalInt64Bytes member.birthTimeSeconds ++
    (optionalInt64Bytes member.birthTimeNanoseconds ++ (int64Bytes member.modifiedTimeSeconds ++
      (int64Bytes member.modifiedTimeNanoseconds ++
        (optionalInt64Bytes member.timestampGranularityNs ++ t))))), ?_⟩
  simp only [bytes, List.cons_append, List.append_assoc]

/-- The members of an analysis in the order of their ordinals, as its table keeps them. -/
structure OrderedMembers (members : List MemberTimeColumns) : Prop where
  bounded : ∀ member ∈ members,
    0 ≤ member.memberOrdinal.toInt ∧ member.memberOrdinal.toInt < maxOutcomeMembers
  ordered : members.Pairwise fun left right =>
    left.memberOrdinal.toInt < right.memberOrdinal.toInt

namespace OrderedMembers

variable {members rest : List MemberTimeColumns} {member : MemberTimeColumns}

/-- Ordinals ascend from zero, so a member's is not below its place. -/
theorem length_le_ordinal (stored : OrderedMembers (members ++ member :: rest)) :
    (members.length : Int) ≤ member.memberOrdinal.toInt := by
  induction members using List.reverseRecOn generalizing member rest with
  | nil => exact (stored.bounded member List.mem_cons_self).1
  | append_singleton before last ih =>
      rw [List.append_assoc] at stored
      have lower := ih stored
      have ordered := (List.pairwise_append.mp stored.ordered).2.1
      have next := (List.pairwise_cons.mp ordered).1 member List.mem_cons_self
      rw [List.length_append, List.length_singleton]
      omega

/-- The count behind the members is not the beginning of one more member. -/
theorem count_ne_member (stored : OrderedMembers (members ++ member :: rest))
    {s t : List UInt8} : i64Bytes members.length ++ s ≠ member.bytes ++ t := by
  intro same
  have lower := stored.length_le_ordinal
  have upper := (stored.bounded member (List.mem_append_right _ List.mem_cons_self)).2
  simp only [maxOutcomeMembers] at upper
  obtain ⟨ordinal, isOrdinal⟩ : ∃ ordinal : Nat, member.memberOrdinal.toInt = ordinal :=
    ⟨member.memberOrdinal.toInt.toNat, by omega⟩
  rw [isOrdinal] at lower upper
  obtain ⟨tail, opened⟩ := member.bytes_opens t
  rw [int64Bytes, isOrdinal, i64Bytes_of_nat (by omega)] at opened
  have counted : i64Bytes members.length =
      UInt8.ofNat (members.length % 256) :: leBytes 7 (members.length / 256) := by
    rw [i64Bytes_of_nat (by omega)]
    rfl
  rw [opened, counted, leBytes_add 7 1, List.cons_append, List.append_assoc] at same
  injection same with mark same
  -- The mark makes the count at least 167; the ordinal is then what is left of the count.
  have large : members.length % 256 = 167 := by
    have value := congrArg UInt8.toNat mark
    rwa [UInt8.toNat_ofNat_of_lt' (Nat.mod_lt _ (by norm_num))] at value
  obtain ⟨shifted, -⟩ := leBytes_prefixFree 7 (show members.length / 256 < 256 ^ 7 by omega)
    (show ordinal < 256 ^ 7 by omega) same
  omega

/-- The members and their count are determined, whatever follows them. -/
theorem counted_injective {left right : List MemberTimeColumns} {s t : List UInt8}
    (storedLeft : OrderedMembers left) (storedRight : OrderedMembers right)
    (same : left.flatMap MemberTimeColumns.bytes ++ (i64Bytes left.length ++ s) =
      right.flatMap MemberTimeColumns.bytes ++ (i64Bytes right.length ++ t)) :
    left = right ∧ s = t := by
  rcases MemberTimeColumns.bytes_prefixFree.flatMap_cases (fun _ _ => trivial)
    (fun _ _ => trivial) same with ⟨more, rfl, follows⟩ | ⟨more, rfl, follows⟩
  · cases more with
    | nil =>
        rw [List.append_nil] at follows ⊢
        exact ⟨rfl, List.append_cancel_left follows⟩
    | cons member more =>
        rw [List.flatMap_cons, List.append_assoc] at follows
        exact absurd follows storedRight.count_ne_member
  · cases more with
    | nil =>
        rw [List.append_nil] at follows ⊢
        exact ⟨rfl, (List.append_cancel_left follows).symm⟩
    | cons member more =>
        rw [List.flatMap_cons, List.append_assoc] at follows
        exact absurd follows storedLeft.count_ne_member

end OrderedMembers

namespace GroupOutcomeColumns

/-- What the tables keep of an outcome: without an analysis the join finds nothing, and the
members of an analysis are in order. -/
structure Stored (row : GroupOutcomeColumns) : Prop where
  joined : row.analysisId = none → row.analysisManifest = none ∧ row.analysisDecision = none ∧
    row.selectedCandidateOrdinal = none ∧ row.analysisFinalizedAtMs = none ∧
    row.analysisTimeSessionId = none ∧ row.analysisGroupId = none ∧ row.analysisState = none ∧
    row.members = []
  members : OrderedMembers row.members

variable {timeSessionId : Int64} {counts after : OutcomeCounts}

/-- An outcome that was counted has texts that fit, and its analysis is sealed, if it has one. -/
theorem check_eq_ok {row : GroupOutcomeColumns}
    (checked : row.check timeSessionId counts = .ok after) :
    (textBytes row.outcome).length < u64Bound ∧ (textBytes row.reasonCode).length < u64Bound ∧
      (row.analysisId.isSome → row.hasSealedAnalysis timeSessionId = true ∧
        (textBytes (row.analysisDecision.getD "")).length < u64Bound) := by
  obtain ⟨counted, kind, checked⟩ := bind_eq_ok.mp checked
  obtain ⟨_, outcome, checked⟩ := bind_eq_ok.mp checked
  obtain ⟨_, analysis, checked⟩ := bind_eq_ok.mp checked
  obtain ⟨_, reason, -⟩ := bind_eq_ok.mp checked
  refine ⟨checkLength_eq_ok.mp outcome, checkLength_eq_ok.mp reason, fun analysed => ?_⟩
  rw [checkAnalysis, if_pos analysed] at analysis
  obtain ⟨_, decision, -⟩ := bind_eq_ok.mp analysis
  refine ⟨?_, checkLength_eq_ok.mp decision⟩
  unfold countOutcome at kind
  split_ifs at kind
  · obtain ⟨_, -, kind⟩ := bind_eq_ok.mp kind
    obtain ⟨_, sealed, -⟩ := bind_eq_ok.mp kind
    simpa using refuse_eq_ok.mp sealed
  · obtain ⟨_, -, kind⟩ := bind_eq_ok.mp kind
    obtain ⟨_, absent, -⟩ := bind_eq_ok.mp kind
    exact absurd (refuse_eq_ok.mp absent) (by simp [analysed])
  · obtain ⟨_, -, kind⟩ := bind_eq_ok.mp kind
    obtain ⟨_, absent, -⟩ := bind_eq_ok.mp kind
    exact absurd (refuse_eq_ok.mp absent) (by simp [analysed])

/-- The columns of a sealed analysis. -/
theorem sealed_columns {row : GroupOutcomeColumns}
    (isSealed : row.hasSealedAnalysis timeSessionId = true) :
    ∃ manifest decision finalizedAtMs, row.analysisManifest = some manifest ∧
      manifest.length = 32 ∧ row.analysisDecision = some decision ∧
      row.analysisFinalizedAtMs = some finalizedAtMs ∧
      row.analysisTimeSessionId = some timeSessionId ∧ row.analysisGroupId = some row.groupId ∧
      row.analysisState = some "sealed" := by
  simp only [hasSealedAnalysis, Bool.and_eq_true, Option.any_eq_true, decide_eq_true_eq,
    Option.isSome_iff_exists] at isSealed
  obtain ⟨⟨⟨⟨⟨⟨-, manifest, isManifest, length⟩, decision, isDecision, -⟩, finalized,
    isFinalized⟩, session⟩, group⟩, state⟩ := isSealed
  exact ⟨manifest, decision, finalized, isManifest, length, isDecision, isFinalized, session,
    group, state⟩

/-- The outcomes that the manifest of a session takes. -/
def Accepted (timeSessionId : Int64) (row : GroupOutcomeColumns) : Prop :=
  row.Stored ∧ ∃ counts after, row.check timeSessionId counts = .ok after

theorem bytes_prefixFree : PrefixFree {row | Accepted timeSessionId row} bytes := by
  rintro left right ⟨storedLeft, _, _, checkedLeft⟩ ⟨storedRight, _, _, checkedRight⟩ s t same
  obtain ⟨outcomeLeft, reasonLeft, analysisLeft⟩ := check_eq_ok checkedLeft
  obtain ⟨outcomeRight, reasonRight, analysisRight⟩ := check_eq_ok checkedRight
  simp only [bytes, List.append_assoc] at same
  obtain ⟨groupId, same⟩ := int64Bytes_prefixFree trivial trivial same
  obtain ⟨outcome, same⟩ := text_prefixFree outcomeLeft outcomeRight same
  unfold analysisBytes at same
  cases isLeft : left.analysisId with
  | none =>
      cases isRight : right.analysisId with
      | none =>
          rw [isLeft, isRight] at same
          have same := List.append_cancel_left same
          obtain ⟨reasonCode, same⟩ := text_prefixFree reasonLeft reasonRight same
          obtain ⟨createdAtMs, same⟩ := int64Bytes_prefixFree trivial trivial same
          have absentLeft := storedLeft.joined isLeft
          have absentRight := storedRight.joined isRight
          refine ⟨?_, same⟩
          cases left
          cases right
          simp_all only
      | some analysisId =>
          rw [isLeft, isRight] at same
          injection same with mark
          exact absurd mark (by decide)
  | some leftId =>
      cases isRight : right.analysisId with
      | none =>
          rw [isLeft, isRight] at same
          injection same with mark
          exact absurd mark (by decide)
      | some rightId =>
          rw [isLeft, isRight] at same
          obtain ⟨sealedLeft, decisionLeft⟩ := analysisLeft (by rw [isLeft]; rfl)
          obtain ⟨sealedRight, decisionRight⟩ := analysisRight (by rw [isRight]; rfl)
          obtain ⟨leftManifest, leftDecision, leftFinalized, leftIs, leftLength, leftDecides,
            leftEnds, leftSession, leftGroup, leftState⟩ := sealed_columns sealedLeft
          obtain ⟨rightManifest, rightDecision, rightFinalized, rightIs, rightLength, rightDecides,
            rightEnds, rightSession, rightGroup, rightState⟩ := sealed_columns sealedRight
          simp only [leftIs, leftDecides, leftEnds, rightIs, rightDecides, rightEnds,
            Option.getD_some, List.cons_append, List.append_assoc] at same decisionLeft decisionRight
          injection same with _ same
          obtain ⟨analysisId, same⟩ := int64Bytes_prefixFree trivial trivial same
          obtain ⟨manifest, same⟩ := fixed_prefixFree 32 leftLength rightLength same
          obtain ⟨decision, same⟩ := text_prefixFree decisionLeft decisionRight same
          obtain ⟨selected, same⟩ := optionalInt64_prefixFree trivial trivial same
          obtain ⟨finalized, same⟩ := int64Bytes_prefixFree trivial trivial same
          have same := List.append_cancel_left same
          obtain ⟨members, same⟩ :=
            OrderedMembers.counted_injective storedLeft.members storedRight.members same
          obtain ⟨reasonCode, same⟩ := text_prefixFree reasonLeft reasonRight same
          obtain ⟨createdAtMs, same⟩ := int64Bytes_prefixFree trivial trivial same
          refine ⟨?_, same⟩
          cases left
          cases right
          simp_all only

theorem length_bytes (row : GroupOutcomeColumns) : 33 ≤ row.bytes.length := by
  have analysis : 1 ≤ row.analysisBytes.length := by
    unfold analysisBytes
    split
    · exact le_rfl
    · exact Nat.le_add_left 1 _
  simp only [bytes, int64Bytes, i64Bytes, lengthPrefixed, List.length_append, length_leBytes]
  omega

end GroupOutcomeColumns

namespace TimeOutcomes

theorem checkOutcomes_eq_ok {timeSessionId : Int64} {counts after : OutcomeCounts}
    {rows : List GroupOutcomeColumns}
    (checked : checkOutcomes timeSessionId counts rows = .ok after) :
    ∀ row ∈ rows, ∃ counts after, row.check timeSessionId counts = .ok after := by
  induction rows generalizing counts with
  | nil => exact fun row found => absurd found List.not_mem_nil
  | cons row rest ih =>
      obtain ⟨counted, valid, checked⟩ := bind_eq_ok.mp checked
      exact List.forall_mem_cons.mpr ⟨⟨counts, counted, valid⟩, ih checked⟩

def Stored (input : TimeOutcomes) : Prop := ∀ row ∈ input.rows, row.Stored

theorem check_eq_ok {input : TimeOutcomes} {counts : OutcomeCounts}
    (checked : input.check = .ok counts) :
    (input.terminalState = "complete" ∨ input.terminalState = "partial") ∧
      input.expectedScopeManifest.length = 32 ∧
      checkOutcomes input.timeSessionId ⟨0, 0, 0⟩ input.rows = .ok counts := by
  obtain ⟨_, -, checked⟩ := bind_eq_ok.mp checked
  obtain ⟨_, -, checked⟩ := bind_eq_ok.mp checked
  obtain ⟨_, terminal, checked⟩ := bind_eq_ok.mp checked
  obtain ⟨_, scope, checked⟩ := bind_eq_ok.mp checked
  obtain ⟨_, rows, checked⟩ := bind_eq_ok.mp checked
  obtain ⟨_, -, done⟩ := bind_eq_ok.mp checked
  cases done
  have terminal := refuse_eq_ok.mp terminal
  have scope := refuse_eq_ok.mp scope
  simp only [Bool.and_eq_false_iff, decide_eq_false_iff_not, not_not] at terminal scope
  exact ⟨terminal, scope, rows⟩

theorem terminalState_bytes {input : TimeOutcomes}
    (terminal : input.terminalState = "complete" ∨ input.terminalState = "partial") :
    7 ≤ (textBytes input.terminalState).length ∧ (textBytes input.terminalState).length ≤ 8 := by
  rcases terminal with complete | part
  · rw [complete]
    decide
  · rw [part]
    decide

/-- The rows have no count in front; they are longer than what their end can vary by. -/
theorem bytes_injective {left right : TimeOutcomes} {leftCounts rightCounts : OutcomeCounts}
    (storedLeft : left.Stored) (storedRight : right.Stored)
    (checkedLeft : left.check = .ok leftCounts) (checkedRight : right.check = .ok rightCounts)
    (same : left.bytes leftCounts = right.bytes rightCounts) : left = right := by
  obtain ⟨terminalLeft, scopeLeft, rowsLeft⟩ := check_eq_ok checkedLeft
  obtain ⟨terminalRight, scopeRight, rowsRight⟩ := check_eq_ok checkedRight
  obtain ⟨lowLeft, highLeft⟩ := terminalState_bytes terminalLeft
  obtain ⟨lowRight, highRight⟩ := terminalState_bytes terminalRight
  simp only [bytes, List.append_assoc] at same
  have same := List.append_cancel_left same
  obtain ⟨timeSessionId, same⟩ := int64Bytes_prefixFree trivial trivial same
  obtain ⟨scanRunId, same⟩ := int64Bytes_prefixFree trivial trivial same
  rw [← timeSessionId] at rowsRight
  have validLeft : ∀ row ∈ left.rows, GroupOutcomeColumns.Accepted left.timeSessionId row :=
    fun row found => ⟨storedLeft row found, checkOutcomes_eq_ok rowsLeft row found⟩
  have validRight : ∀ row ∈ right.rows, GroupOutcomeColumns.Accepted left.timeSessionId row :=
    fun row found => ⟨storedRight row found, checkOutcomes_eq_ok rowsRight row found⟩
  obtain ⟨rows, same⟩ := GroupOutcomeColumns.bytes_prefixFree.flatMap_of_longer
    (fun row _ => row.length_bytes) validLeft validRight
    (by simp only [i64Bytes, int64Bytes, lengthPrefixed, List.length_append, length_leBytes,
          scopeLeft, scopeRight]; omega)
    (by simp only [i64Bytes, int64Bytes, lengthPrefixed, List.length_append, length_leBytes,
          scopeLeft, scopeRight]; omega) same
  rw [← rows, rowsLeft] at rowsRight
  cases rowsRight
  have same := List.append_cancel_left (List.append_cancel_left (List.append_cancel_left same))
  have fits : ∀ input : TimeOutcomes, (textBytes input.terminalState).length ≤ 8 →
      (textBytes input.terminalState).length < u64Bound :=
    fun _ short => lt_of_le_of_lt short (by decide)
  obtain ⟨terminalState, same⟩ := text_prefixFree (fits left highLeft) (fits right highRight) same
  obtain ⟨expectedGroupCount, same⟩ := int64Bytes_prefixFree trivial trivial same
  obtain ⟨expectedScopeManifest, same⟩ := fixed_prefixFree 32 scopeLeft scopeRight same
  have finalizedAtMs := int64Bytes_prefixFree.injOn trivial trivial same
  cases left
  cases right
  simp_all only

end TimeOutcomes

/-! ## The rows of a query -/

namespace SqlValue

theorem bytes_prefixFree : PrefixFree {value : SqlValue | value.check = .ok ()} bytes := by
  intro left right checkedLeft checkedRight s t same
  cases left with
  | real => cases checkedLeft
  | null =>
      cases right with
      | real => cases checkedRight
      | null => exact ⟨rfl, List.append_cancel_left same⟩
      | integer | text | blob =>
          injection same with mark
          exact absurd mark (by decide)
  | integer leftValue =>
      cases right with
      | real => cases checkedRight
      | integer rightValue =>
          injection same with _ same
          obtain ⟨rfl, follows⟩ := int64Bytes_prefixFree trivial trivial same
          exact ⟨rfl, follows⟩
      | null | text | blob =>
          injection same with mark
          exact absurd mark (by decide)
  | text leftBytes =>
      cases right with
      | real => cases checkedRight
      | text rightBytes =>
          injection same with _ same
          obtain ⟨rfl, follows⟩ := lengthPrefixed_prefixFree (checkLength_eq_ok.mp checkedLeft)
            (checkLength_eq_ok.mp checkedRight) same
          exact ⟨rfl, follows⟩
      | null | integer | blob =>
          injection same with mark
          exact absurd mark (by decide)
  | blob leftBytes =>
      cases right with
      | real => cases checkedRight
      | blob rightBytes =>
          injection same with _ same
          obtain ⟨rfl, follows⟩ := lengthPrefixed_prefixFree (checkLength_eq_ok.mp checkedLeft)
            (checkLength_eq_ok.mp checkedRight) same
          exact ⟨rfl, follows⟩
      | null | integer | text =>
          injection same with mark
          exact absurd mark (by decide)

end SqlValue

namespace QueryRows

variable {query : EvidenceQuery}

theorem checkRow_eq_ok {row : List SqlValue} {done : Unit} (checked : checkRow row = .ok done) :
    ∀ value ∈ row, value.check = .ok () := by
  induction row with
  | nil => exact fun value found => absurd found List.not_mem_nil
  | cons value rest ih =>
      obtain ⟨_, valid, checked⟩ := bind_eq_ok.mp checked
      exact List.forall_mem_cons.mpr ⟨valid, ih checked⟩

/-- The rows of one query have as many columns as it. -/
theorem rowBytes_prefixFree (columnCount : Nat) :
    PrefixFree {row | row.length = columnCount ∧ checkRow row = .ok ()} rowBytes := by
  rintro left right ⟨widthLeft, checkedLeft⟩ ⟨widthRight, checkedRight⟩ s t same
  injection same with _ same
  exact SqlValue.bytes_prefixFree.flatMap_of_length (checkRow_eq_ok checkedLeft)
    (checkRow_eq_ok checkedRight) (widthLeft.trans widthRight.symm) same

theorem check_eq_ok {answer : QueryRows query} {count : Nat} (checked : answer.check = .ok count) :
    (∀ row ∈ answer.rows, checkRow row = .ok ()) ∧ count = answer.rows.length ∧
      (count : Int) ≤ i64Max := by
  obtain ⟨_, -, checked⟩ := bind_eq_ok.mp checked
  obtain ⟨valid, total, limited⟩ :=
    checkRows_eq_ok (fun _ _ => nextCount_eq_ok) (by decide) checked
  exact ⟨valid, by omega, limited⟩

/-- What a query answered is determined, whatever is hashed behind it. -/
theorem bytes_injective {left right : QueryRows query} {leftCount rightCount : Nat}
    {s t : List UInt8} (checkedLeft : left.check = .ok leftCount)
    (checkedRight : right.check = .ok rightCount) (same : left.bytes ++ s = right.bytes ++ t) :
    left = right ∧ s = t := by
  obtain ⟨validLeft, rfl, lowLeft⟩ := check_eq_ok checkedLeft
  obtain ⟨validRight, rfl, lowRight⟩ := check_eq_ok checkedRight
  simp only [bytes, List.append_assoc, List.cons_append] at same
  have same := List.append_cancel_left same
  obtain ⟨rows, same⟩ := (rowBytes_prefixFree query.columnCount).flatMap_of_mark
    (fun _ _ => rfl) (fun row found => ⟨left.width row found, validLeft row found⟩)
    (fun row found => ⟨right.width row found, validRight row found⟩) (by simp) (by simp) same
  injection same with _ same
  obtain ⟨-, follows⟩ := natBytes_injective lowLeft lowRight same
  refine ⟨?_, follows⟩
  cases left
  cases right
  simp_all only

end QueryRows

namespace QueryAnswers

theorem bytes_injective {queries : List EvidenceQuery} {left right : QueryAnswers queries}
    (checkedLeft : left.check = .ok ()) (checkedRight : right.check = .ok ())
    (same : left.bytes = right.bytes) : left = right := by
  induction left with
  | nil =>
      cases right
      rfl
  | cons leftAnswer leftRest ih =>
      cases right with
      | cons rightAnswer rightRest =>
          obtain ⟨_, leftValid, leftRests⟩ := bind_eq_ok.mp checkedLeft
          obtain ⟨_, rightValid, rightRests⟩ := bind_eq_ok.mp checkedRight
          obtain ⟨rfl, later⟩ := QueryRows.bytes_injective leftValid rightValid same
          rw [ih leftRests rightRests later]

theorem check_of_checkManifest {query : EvidenceQuery} {queries : List EvidenceQuery}
    {entity : String} {id : Int64} {answers : QueryAnswers (query :: queries)}
    (checked : answers.checkManifest entity id = .ok ()) : answers.check = .ok () := by
  cases answers with
  | cons answer rest =>
      obtain ⟨count, valid, checked⟩ := bind_eq_ok.mp checked
      obtain ⟨_, -, checked⟩ := bind_eq_ok.mp checked
      exact bind_eq_ok.mpr ⟨count, valid, checked⟩

end QueryAnswers

end Guiying.Store
