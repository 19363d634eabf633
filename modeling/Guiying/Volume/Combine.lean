import Guiying.Volume.MountRelativePath

/-!
# Paths below a scan root

A scan root is itself a path below the mount root, so a path below the scan root
has a mount-relative form: the two written one after the other.
-/

namespace Guiying.Volume

open Guiying.Foundation ByteString Outcome

/-! ## Unix paths that are accepted -/

/-- What both rule sets ask of a non-empty path on a Unix system. -/
structure UnixShape (raw : List UInt8) : Prop where
  nul : 0 ∉ raw
  named : ∀ component ∈ raw.splitOn slash,
    component ≠ [] ∧ component ≠ dotName ∧ component ≠ parentName
  bounded : ∀ component ∈ raw.splitOn slash, component.length ≤ maxComponentBytes
  counted : (raw.splitOn slash).length ≤ maxPathComponents

/-- A leading separator leaves an empty first component. -/
theorem head_of_named {text : List UInt8}
    (named : ∀ component ∈ text.splitOn slash, component ≠ []) : text.head? ≠ some slash := by
  cases text with
  | nil => exact Option.some_ne_none slash ∘ Eq.symm
  | cons first others =>
      intro absolute
      have same : first = slash := by simpa using absolute
      subst same
      have split : (slash :: others).splitOn slash = [] :: others.splitOn slash := by
        have split : ([] ++ slash :: others).splitOn slash =
            [].splitOn slash ++ others.splitOn slash := List.splitOn_append_cons_self [] others
        simpa [List.splitOn_nil] using split
      exact named [] (by rw [split]; exact List.mem_cons_self) rfl

namespace UnixShape

variable {raw before rest : List UInt8}

theorem ne_nil (shape : UnixShape raw) : raw ≠ [] := by
  rintro rfl
  exact (shape.named [] (by simp [List.splitOn_nil])).1 rfl

theorem relative (shape : UnixShape raw) : raw.head? ≠ some slash :=
  head_of_named fun component found => (shape.named component found).1

/-- A path is accepted component by component, so each side of a separator is. -/
theorem of_joined (shape : UnixShape (before ++ slash :: rest)) :
    UnixShape before ∧ UnixShape rest := by
  have split : (before ++ slash :: rest).splitOn slash =
      before.splitOn slash ++ rest.splitOn slash :=
    List.splitOn_append_cons_self before rest
  have counted := shape.counted
  rw [split, List.length_append] at counted
  constructor
  · refine ⟨fun found => shape.nul (List.mem_append_left _ found), ?_, ?_, by omega⟩
    · intro component found
      exact shape.named component (by rw [split]; exact List.mem_append_left _ found)
    · intro component found
      exact shape.bounded component (by rw [split]; exact List.mem_append_left _ found)
  · refine ⟨fun found => shape.nul ?_, ?_, ?_, by omega⟩
    · exact List.mem_append_right _ (List.mem_cons_of_mem _ found)
    · intro component found
      exact shape.named component (by rw [split]; exact List.mem_append_right _ found)
    · intro component found
      exact shape.bounded component (by rw [split]; exact List.mem_append_right _ found)

end UnixShape

theorem validateUnixComponents_eq_ok {index count : Nat} {components : List (List UInt8)} :
    validateUnixComponents index components = .ok count ↔
      (∀ component ∈ components,
        component ≠ [] ∧ component ≠ dotName ∧ component ≠ parentName) ∧
      (∀ component ∈ components, component.length ≤ maxComponentBytes) ∧
      (components ≠ [] → index + components.length ≤ maxPathComponents) ∧
      count = index + components.length := by
  induction components generalizing index with
  | nil => simp [validateUnixComponents, eq_comm]
  | cons component rest ih =>
      simp only [validateUnixComponents, validateComponentBudget, bind_eq_ok, refuse_eq_ok, ih,
        exists_const, decide_eq_false_iff_not, not_lt, List.forall_mem_cons, List.length_cons]
      constructor
      · rintro ⟨fits, full, dot, parent, room, named, bounded, counted, rfl⟩
        refine ⟨⟨⟨full, dot, parent⟩, named⟩, ⟨fits, bounded⟩, fun _ => ?_, by omega⟩
        cases rest with
        | nil => simpa using room
        | cons next others =>
            have counted := counted (List.cons_ne_nil next others)
            simp only [List.length_cons] at counted ⊢
            omega
      · rintro ⟨⟨⟨full, dot, parent⟩, named⟩, ⟨fits, bounded⟩, counted, rfl⟩
        have counted := counted (List.cons_ne_nil component rest)
        exact ⟨fits, full, dot, parent, by omega, named, bounded, fun _ => by omega, by omega⟩

/-- The shape is what the volume's own rules accept. -/
theorem validateUnix_eq_ok {raw : List UInt8} {count : Nat} :
    validateUnix raw = .ok count ↔
      raw = [] ∧ count = 0 ∨ UnixShape raw ∧ count = (raw.splitOn slash).length := by
  unfold validateUnix
  split_ifs with empty absolute nul
  · subst empty
    constructor
    · intro done
      cases done
      exact .inl ⟨rfl, rfl⟩
    · rintro (⟨-, rfl⟩ | ⟨shape, -⟩)
      · rfl
      · exact absurd rfl shape.ne_nil
  · simp only [empty, false_and, false_or, false_iff, not_and]
    exact fun shape => absurd absolute shape.relative
  · simp only [empty, false_and, false_or, false_iff, not_and]
    exact fun shape => absurd nul shape.nul
  · rw [validateUnixComponents_eq_ok, Nat.zero_add]
    constructor
    · rintro ⟨named, bounded, counted, rfl⟩
      exact .inr ⟨⟨nul, named, bounded, counted (List.splitOn_ne_nil slash raw)⟩, rfl⟩
    · rintro (⟨nothing, -⟩ | ⟨shape, rfl⟩)
      · exact absurd nothing empty
      · exact ⟨shape.named, shape.bounded, fun _ => shape.counted, rfl⟩

/-- A path the volume accepts on a Unix system. -/
def UnixAccepted (raw : List UInt8) : Prop :=
  raw.length ≤ maxRelativePathBytes ∧ (raw = [] ∨ UnixShape raw)

theorem validateRelativeRaw_unix {raw : List UInt8} :
    (∃ count, validateRelativeRaw raw .unixBytes = .ok count) ↔ UnixAccepted raw := by
  unfold validateRelativeRaw UnixAccepted
  split_ifs with long
  · simp only [exists_false, false_iff, not_and]
    exact fun fits => absurd long (not_lt.mpr fits)
  · simp only [validateNative, validateUnix_eq_ok, not_lt.mp long, true_and]
    constructor
    · rintro ⟨count, ⟨empty, -⟩ | ⟨shape, -⟩⟩
      · exact .inl empty
      · exact .inr shape
    · rintro (empty | shape)
      · exact ⟨0, .inl ⟨empty, rfl⟩⟩
      · exact ⟨_, .inr ⟨shape, rfl⟩⟩

theorem RootRelativePath.fromRaw_unix {raw : List UInt8} {key : Bytes32}
    {path : RootRelativePath} (accepted : fromRaw raw .unixBytes key = .ok path) :
    path.raw = raw ∧ path.encoding = .unixBytes ∧ path.display = Utf8.lossy raw ∧
      (path.isRoot ↔ raw = []) ∧ UnixAccepted raw := by
  obtain ⟨count, valid, made⟩ := bind_eq_ok.mp accepted
  cases made
  refine ⟨rfl, rfl, rfl, ?_, validateRelativeRaw_unix.mp ⟨count, valid⟩⟩
  unfold validateRelativeRaw at valid
  split_ifs at valid
  simp only [isRoot, decide_eq_true_eq]
  rcases validateUnix_eq_ok.mp valid with ⟨empty, none⟩ | ⟨shape, counted⟩
  · simp [empty, none]
  · have split := List.length_pos_of_ne_nil (List.splitOn_ne_nil slash raw)
    simp only [shape.ne_nil, iff_false]
    omega

theorem RootRelativePath.fromRaw_of_accepted {raw : List UInt8} (accepted : UnixAccepted raw)
    (key : Bytes32) : ∃ path, fromRaw raw .unixBytes key = .ok path := by
  obtain ⟨count, valid⟩ := validateRelativeRaw_unix.mpr accepted
  exact ⟨_, bind_eq_ok.mpr ⟨count, valid, rfl⟩⟩

/-! ## Composition -/

variable (hash : List UInt8 → Bytes32)

/-- A length past the machine word is a length past the limit: both answer the same. -/
def combineMountRelative (mountRelativeRoot : List UInt8) (rootRelative : RootRelativePath)
    (profile : PathSemanticsProfile) : Except PathError MountRelativePath := do
  refuse (profile.encoding ≠ .unixBytes || rootRelative.encoding ≠ .unixBytes)
    .unsupportedEncoding
  let separator := if mountRelativeRoot ≠ [] ∧ ¬ rootRelative.isRoot then [slash] else []
  let combinedLen := mountRelativeRoot.length + separator.length + rootRelative.raw.length
  refuse (decide (maxRelativePathBytes < combinedLen)) (.pathTooLong maxRelativePathBytes)
  MountRelativePath.fromRaw hash (mountRelativeRoot ++ separator ++ rootRelative.raw)
    profile.encoding profile

/-- The bytes of a path below a root, for a path that is not the root itself. -/
def joinedRaw (root raw : List UInt8) : List UInt8 :=
  if root = [] then raw else root ++ slash :: raw

variable {hash} {profile : PathSemanticsProfile} {root raw : List UInt8}

theorem length_joinedRaw (root raw : List UInt8) :
    (joinedRaw root raw).length =
      if root = [] then raw.length else root.length + 1 + raw.length := by
  unfold joinedRaw
  split_ifs
  · rfl
  · simp only [List.length_append, List.length_cons]
    omega

theorem length_le_joinedRaw (root raw : List UInt8) :
    root.length ≤ (joinedRaw root raw).length ∧ raw.length ≤ (joinedRaw root raw).length := by
  rw [length_joinedRaw]
  split_ifs with empty
  · exact ⟨by simp [empty], le_rfl⟩
  · omega

theorem UnixShape.of_joinedRaw (shape : UnixShape (joinedRaw root raw)) :
    (root = [] ∨ UnixShape root) ∧ UnixShape raw := by
  unfold joinedRaw at shape
  split_ifs at shape with empty
  · exact ⟨.inl empty, shape⟩
  · exact ⟨.inr shape.of_joined.1, shape.of_joined.2⟩

/-- Composition accepts exactly the paths whose joined bytes the rules accept. -/
theorem combineMountRelative_eq_ok {key : Bytes32} {path : RootRelativePath}
    {combined : MountRelativePath} (accepted : RootRelativePath.fromRaw raw .unixBytes key = .ok path)
    (below : raw ≠ []) :
    combineMountRelative hash root path profile = .ok combined ↔
      profile.encoding = .unixBytes ∧
        MountRelativePath.fromRaw hash (joinedRaw root raw) .unixBytes profile = .ok combined := by
  obtain ⟨same, encoding, -, isRoot, -⟩ := RootRelativePath.fromRaw_unix accepted
  have below : ¬ path.isRoot := fun found => below (isRoot.mp found)
  have joined : root ++ (if root ≠ [] ∧ ¬ path.isRoot then [slash] else []) ++ path.raw =
      joinedRaw root raw := by
    unfold joinedRaw
    by_cases empty : root = []
    · simp [empty, same]
    · simp [empty, same, below]
  have length : root.length + (if root ≠ [] ∧ ¬ path.isRoot then [slash] else []).length +
      path.raw.length = (joinedRaw root raw).length := by
    rw [← joined, List.length_append, List.length_append]
  simp only [combineMountRelative, joined, length, bind_eq_ok, refuse_eq_ok, exists_const,
    encoding, ne_eq, not_true_eq_false, decide_false, Bool.or_false, decide_not,
    Bool.not_eq_false', decide_eq_true_eq, decide_eq_false_iff_not, not_lt]
  constructor
  · rintro ⟨unix, fits, made⟩
    rw [unix] at made
    exact ⟨unix, made⟩
  · rintro ⟨unix, made⟩
    rw [unix]
    exact ⟨rfl, (MountRelativePath.fromRaw_eq_ok.mp made).2.1, made⟩

/-- What composition gives, and what it says about its parts. -/
theorem combined_unix {key : Bytes32} {path : RootRelativePath} {combined : MountRelativePath}
    (accepted : RootRelativePath.fromRaw raw .unixBytes key = .ok path) (below : raw ≠ [])
    (made : combineMountRelative hash root path profile = .ok combined) :
    combined.raw = joinedRaw root raw ∧ combined.display = Utf8.lossy (joinedRaw root raw) ∧
      UnixShape (joinedRaw root raw) ∧ (joinedRaw root raw).length ≤ maxRelativePathBytes := by
  obtain ⟨-, made⟩ := (combineMountRelative_eq_ok accepted below).mp made
  obtain ⟨-, fits, count, valid, rfl⟩ := MountRelativePath.fromRaw_eq_ok.mp made
  refine ⟨rfl, rfl, ?_, fits⟩
  rcases validateUnix_eq_ok.mp valid with ⟨empty, -⟩ | ⟨shape, -⟩
  · unfold joinedRaw at empty
    split_ifs at empty
    · exact absurd empty below
    · exact absurd empty (List.append_ne_nil_of_right_ne_nil root (List.cons_ne_nil slash raw))
  · exact shape

theorem combineMountRelative_of_joined (hash : List UInt8 → Bytes32) {key : Bytes32} {path : RootRelativePath}
    (unix : profile.encoding = .unixBytes)
    (accepted : RootRelativePath.fromRaw raw .unixBytes key = .ok path) (below : raw ≠ [])
    (shape : UnixShape (joinedRaw root raw))
    (fits : (joinedRaw root raw).length ≤ maxRelativePathBytes) :
    ∃ combined, combineMountRelative hash root path profile = .ok combined ∧
      combined.raw = joinedRaw root raw := by
  have valid := validateUnix_eq_ok.mpr (.inr ⟨shape, rfl⟩)
  have made : ∃ combined,
      MountRelativePath.fromRaw hash (joinedRaw root raw) .unixBytes profile = .ok combined ∧
        combined.raw = joinedRaw root raw :=
    ⟨_, MountRelativePath.fromRaw_eq_ok.mpr ⟨unix.symm, fits, _, valid, rfl⟩, rfl⟩
  obtain ⟨combined, made, same⟩ := made
  exact ⟨combined, (combineMountRelative_eq_ok accepted below).mpr ⟨unix, made⟩, same⟩

end Guiying.Volume
