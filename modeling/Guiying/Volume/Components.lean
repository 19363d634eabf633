import Guiying.Foundation.Separated
import Guiying.Volume.Combine

/-!
# The components of a combined path

Writing a root and a path below it one after the other appends their components, so where a
selected root divides a path leaves no trace in the combined one.
-/

namespace Guiying.Volume

open Guiying.Foundation ByteString Outcome Separated

/-- What `unix_components` goes through. -/
def components (raw : List UInt8) : List (List UInt8) := pieces slash raw

variable {root raw : List UInt8} {profile : PathSemanticsProfile}

theorem UnixShape.tight (shape : UnixShape raw) : Tight slash raw :=
  .inr fun component listed => (shape.named component listed).1

theorem UnixShape.components_eq (shape : UnixShape raw) : components raw = raw.splitOn slash :=
  pieces_of_named fun component listed => (shape.named component listed).1

theorem UnixAccepted.tight (accepted : UnixAccepted raw) : Tight slash raw := by
  rcases accepted.2 with empty | shape
  · exact .inl empty
  · exact shape.tight

theorem UnixAccepted.nul (accepted : UnixAccepted raw) : 0 ∉ raw := by
  rcases accepted.2 with empty | shape
  · simp [empty]
  · exact shape.nul

/-- A component a path may have. -/
def ComponentAccepted (component : List UInt8) : Prop :=
  (component ≠ [] ∧ component ≠ dotName ∧ component ≠ parentName) ∧
    component.length ≤ maxComponentBytes

theorem UnixAccepted.component (accepted : UnixAccepted raw) :
    ∀ component ∈ components raw, ComponentAccepted component := by
  intro component listed
  rcases accepted.2 with empty | shape
  · rw [empty] at listed
    simp [components] at listed
  · rw [shape.components_eq] at listed
    exact ⟨shape.named component listed, shape.bounded component listed⟩

/-- The number of components is what the rules count. -/
theorem validateUnix_count {count : Nat} (valid : validateUnix raw = .ok count) :
    count = (components raw).length := by
  rcases validateUnix_eq_ok.mp valid with ⟨rfl, rfl⟩ | ⟨shape, rfl⟩
  · simp [components]
  · rw [shape.components_eq]

/-! ## Validation of components that are accepted one by one -/

theorem validateUnixComponents_of_accepted {index : Nat} {listed : List (List UInt8)}
    (accepted : ∀ component ∈ listed, ComponentAccepted component) :
    validateUnixComponents index listed =
      if listed = [] ∨ index + listed.length ≤ maxPathComponents then .ok (index + listed.length)
      else .error (.tooManyComponents maxPathComponents) := by
  induction listed generalizing index with
  | nil => simp [validateUnixComponents]
  | cons component rest ih =>
      obtain ⟨⟨⟨full, dot, parent⟩, fits⟩, restAccepted⟩ := List.forall_mem_cons.mp accepted
      have budget : validateComponentBudget index component.length = .ok () := by
        simp [validateComponentBudget, refuse, fits]
      simp only [validateUnixComponents, budget, refuse, full, dot, parent, decide_false,
        Bool.false_eq_true, if_false, ok_bind, ih restAccepted, List.length_cons]
      by_cases room : index + 1 ≤ maxPathComponents
      · have below : decide (maxPathComponents < index + 1) = false := by simpa using room
        rw [below]
        cases rest with
        | nil => simp [room]
        | cons next others =>
            simp [Nat.add_comm, Nat.add_left_comm]
      · have above : decide (maxPathComponents < index + 1) = true := by simpa using room
        have beyond : ¬ index + (rest.length + 1) ≤ maxPathComponents := by omega
        rw [above]
        simp [beyond]

/-- Tight text of accepted components without a NUL fails by their number only. -/
theorem validateUnix_of_components (tight : Tight slash raw) (nul : 0 ∉ raw)
    (accepted : ∀ component ∈ components raw, ComponentAccepted component) :
    validateUnix raw =
      if (components raw).length ≤ maxPathComponents then .ok (components raw).length
      else .error (.tooManyComponents maxPathComponents) := by
  rcases tight with rfl | named
  · simp [validateUnix, components]
  · have same : components raw = raw.splitOn slash := pieces_of_named named
    have full : raw ≠ [] := by
      rintro rfl
      exact named [] (by simp [List.splitOn_nil]) rfl
    rw [same] at accepted ⊢
    unfold validateUnix
    rw [if_neg full, if_neg (head_of_named named), if_neg nul,
      validateUnixComponents_of_accepted accepted, Nat.zero_add]
    simp only [List.splitOn_ne_nil slash raw, false_or]

/-! ## Composition -/

theorem components_join (root raw : List UInt8) :
    components (join slash root raw) = components root ++ components raw :=
  pieces_join root raw

theorem UnixAccepted.join_tight (rootAccepted : UnixAccepted root) (accepted : UnixAccepted raw) :
    Tight slash (join slash root raw) :=
  tight_join rootAccepted.tight accepted.tight

theorem UnixAccepted.join_nul (rootAccepted : UnixAccepted root) (accepted : UnixAccepted raw) :
    0 ∉ join slash root raw := by
  intro found
  rcases mem_join found with separator | inRoot | inRaw
  · exact absurd separator (by decide)
  · exact rootAccepted.nul inRoot
  · exact accepted.nul inRaw

theorem UnixAccepted.join_component (rootAccepted : UnixAccepted root)
    (accepted : UnixAccepted raw) :
    ∀ component ∈ components (join slash root raw), ComponentAccepted component := by
  intro component listed
  rw [components_join, List.mem_append] at listed
  rcases listed with listed | listed
  · exact rootAccepted.component component listed
  · exact accepted.component component listed

/-- Of two accepted parts only the number of components can be too much for the rules. -/
theorem UnixAccepted.validate_join (rootAccepted : UnixAccepted root)
    (accepted : UnixAccepted raw) :
    validateUnix (join slash root raw) =
      if (components root ++ components raw).length ≤ maxPathComponents then
        .ok (components root ++ components raw).length
      else .error (.tooManyComponents maxPathComponents) := by
  rw [← components_join]
  exact validateUnix_of_components (rootAccepted.join_tight accepted)
    (rootAccepted.join_nul accepted) (rootAccepted.join_component accepted)

theorem UnixAccepted.join_named (rootAccepted : UnixAccepted root) (accepted : UnixAccepted raw) :
    join slash root raw = [] ∨ ∀ component ∈ (join slash root raw).splitOn slash,
      component ≠ [] ∧ component ≠ dotName ∧ component ≠ parentName := by
  refine (rootAccepted.join_tight accepted).imp_right fun named component listed => ?_
  have found : component ∈ components (join slash root raw) := by
    rw [components, pieces_of_named named]
    exact listed
  exact (rootAccepted.join_component accepted component found).1

/-- The path that bytes make under a Unix profile. -/
def unixPath (hash : List UInt8 → Bytes32) (profile : PathSemanticsProfile) (raw : List UInt8)
    (componentCount : Nat) : MountRelativePath :=
  ⟨.unixBytes, raw, displayRaw raw .unixBytes, profile.profileKey,
    profile.calculatePathKey hash raw, componentCount⟩

/-- Composition is joining, under the two ceilings. -/
theorem combineMountRelative_eq (hash : List UInt8 → Bytes32) {key : Bytes32}
    {path : RootRelativePath} (unix : profile.encoding = .unixBytes)
    (rootAccepted : UnixAccepted root)
    (made : RootRelativePath.fromRaw raw .unixBytes key = .ok path) :
    combineMountRelative hash root path profile =
      if maxRelativePathBytes < (join slash root raw).length then
        .error (.pathTooLong maxRelativePathBytes)
      else if (components root ++ components raw).length ≤ maxPathComponents then
        .ok (unixPath hash profile (join slash root raw)
          (components root ++ components raw).length)
      else .error (.tooManyComponents maxPathComponents) := by
  obtain ⟨same, encoding, -, isRoot, accepted⟩ := RootRelativePath.fromRaw_unix made
  have joined : root ++ (if root ≠ [] ∧ ¬ path.isRoot then [slash] else []) ++ path.raw =
      join slash root raw := by
    have below : (¬ path.isRoot) = (raw ≠ []) := by rw [isRoot]
    simp only [join, same, below]
  have length : root.length + (if root ≠ [] ∧ ¬ path.isRoot then [slash] else []).length +
      path.raw.length = (join slash root raw).length := by
    rw [← joined, List.length_append, List.length_append]
  simp only [combineMountRelative, joined, length, unix, encoding, ne_eq, not_true_eq_false,
    decide_false, Bool.or_false, refuse, Bool.false_eq_true, if_false, ok_bind, decide_eq_true_eq]
  by_cases long : maxRelativePathBytes < (join slash root raw).length
  · rw [if_pos long, if_pos long]
    rfl
  · rw [if_neg long, if_neg long, ok_bind]
    simp only [MountRelativePath.fromRaw, unix, ne_eq, not_true_eq_false, if_false, long,
      validateNative, rootAccepted.validate_join accepted]
    split <;> rfl

/-- A path accepted below a mount is an accepted one under a Unix profile. -/
theorem MountRelativePath.fromRaw_unix {hash : List UInt8 → Bytes32} {path : MountRelativePath}
    (made : fromRaw hash raw .unixBytes profile = .ok path) :
    profile.encoding = .unixBytes ∧ UnixAccepted raw ∧
      path.componentCount = (components raw).length := by
  obtain ⟨unix, fits, count, valid, rfl⟩ := fromRaw_eq_ok.mp made
  refine ⟨unix.symm, ⟨fits, ?_⟩, validateUnix_count valid⟩
  rcases validateUnix_eq_ok.mp valid with ⟨empty, -⟩ | ⟨shape, -⟩
  · exact .inl empty
  · exact .inr shape

theorem RootRelativePath.fromRaw_count {key : Bytes32} {path : RootRelativePath}
    (made : fromRaw raw .unixBytes key = .ok path) :
    path.componentCount = (components raw).length := by
  obtain ⟨count, valid, made⟩ := bind_eq_ok.mp made
  cases made
  unfold validateRelativeRaw at valid
  split_ifs at valid
  exact validateUnix_count valid

/-- Accepted parts are combined by joining them. -/
structure Parts (hash : List UInt8 → Bytes32) (profile : PathSemanticsProfile)
    (root raw : List UInt8) (path : RootRelativePath) : Prop where
  unix : profile.encoding = .unixBytes
  rootAccepted : UnixAccepted root
  accepted : UnixAccepted raw
  joins : combineMountRelative hash root path profile =
    if maxRelativePathBytes < (join slash root raw).length then
      .error (.pathTooLong maxRelativePathBytes)
    else if (components root ++ components raw).length ≤ maxPathComponents then
      .ok (unixPath hash profile (join slash root raw) (components root ++ components raw).length)
    else .error (.tooManyComponents maxPathComponents)

namespace Parts

variable {hash : List UInt8 → Bytes32} {path : RootRelativePath}

theorem of_made {key : Bytes32} {rootPath : MountRelativePath}
    (rootMade : MountRelativePath.fromRaw hash root .unixBytes profile = .ok rootPath)
    (made : RootRelativePath.fromRaw raw .unixBytes key = .ok path) :
    Parts hash profile root raw path := by
  obtain ⟨unix, rootAccepted, -⟩ := MountRelativePath.fromRaw_unix rootMade
  obtain ⟨-, -, -, -, accepted⟩ := RootRelativePath.fromRaw_unix made
  exact ⟨unix, rootAccepted, accepted, combineMountRelative_eq hash unix rootAccepted made⟩

theorem error_eq (parts : Parts hash profile root raw path) {error : PathError}
    (failed : combineMountRelative hash root path profile = .error error) :
    error = .pathTooLong maxRelativePathBytes ∧
        maxRelativePathBytes < (join slash root raw).length ∨
      error = .tooManyComponents maxPathComponents ∧
        maxPathComponents < (components root).length + (components raw).length := by
  rw [parts.joins] at failed
  split_ifs at failed with long many
  · cases failed
    exact .inl ⟨rfl, long⟩
  · cases failed
    rw [List.length_append, not_le] at many
    exact .inr ⟨rfl, many⟩

theorem ok_eq (parts : Parts hash profile root raw path) {combined : MountRelativePath}
    (done : combineMountRelative hash root path profile = .ok combined) :
    combined = unixPath hash profile (join slash root raw)
      (components root ++ components raw).length := by
  rw [parts.joins] at done
  split_ifs at done
  cases done
  rfl

theorem join_eq {root' raw' : List UInt8} {path' : RootRelativePath}
    (parts : Parts hash profile root raw path) (parts' : Parts hash profile root' raw' path')
    (same : components root ++ components raw = components root' ++ components raw') :
    join slash root raw = join slash root' raw' := by
  apply eq_of_pieces (parts.rootAccepted.join_tight parts.accepted)
    (parts'.rootAccepted.join_tight parts'.accepted)
  rw [pieces_join, pieces_join]
  exact same

/-- Where the root ends does not matter. -/
theorem combine_eq {root' raw' : List UInt8} {path' : RootRelativePath}
    (parts : Parts hash profile root raw path) (parts' : Parts hash profile root' raw' path')
    (same : components root ++ components raw = components root' ++ components raw') :
    combineMountRelative hash root path profile =
      combineMountRelative hash root' path' profile := by
  rw [parts.joins, parts'.joins, same, parts.join_eq parts' same]

end Parts

/-- Composition ends with the components of both parts, or because there is too much of them,
and depends on nothing but their components in order. -/
theorem combineMountRelative_components (hash : List UInt8 → Bytes32)
    (profile : PathSemanticsProfile) {root raw root' raw' : List UInt8} {key key' : Bytes32}
    {rootPath rootPath' : MountRelativePath} {path path' : RootRelativePath}
    (rootMade : MountRelativePath.fromRaw hash root .unixBytes profile = .ok rootPath)
    (made : RootRelativePath.fromRaw raw .unixBytes key = .ok path)
    (rootMade' : MountRelativePath.fromRaw hash root' .unixBytes profile = .ok rootPath')
    (made' : RootRelativePath.fromRaw raw' .unixBytes key' = .ok path') :
    (∀ error, combineMountRelative hash root path profile = .error error →
      error = .pathTooLong maxRelativePathBytes ∧
          maxRelativePathBytes < (join slash root raw).length ∨
        error = .tooManyComponents maxPathComponents ∧
          maxPathComponents < (components root).length + (components raw).length) ∧
    (∀ combined, combineMountRelative hash root path profile = .ok combined →
      components combined.raw = components root ++ components raw ∧
        combined.componentCount = rootPath.componentCount + path.componentCount ∧
        (combined.raw = [] ∨ ∀ component ∈ combined.raw.splitOn slash,
          component ≠ [] ∧ component ≠ dotName ∧ component ≠ parentName) ∧
        0 ∉ combined.raw) ∧
    (components root ++ components raw = components root' ++ components raw' →
      combineMountRelative hash root path profile =
        combineMountRelative hash root' path' profile) ∧
    (∀ combined combined', combineMountRelative hash root path profile = .ok combined →
      combineMountRelative hash root' path' profile = .ok combined' →
      (components root ++ components raw = components root' ++ components raw' →
        combined.raw = combined'.raw ∧ combined.stablePathKey = combined'.stablePathKey) ∧
      (components root ++ components raw ≠ components root' ++ components raw' →
        combined.raw ≠ combined'.raw)) := by
  have parts : Parts hash profile root raw path := .of_made rootMade made
  have parts' : Parts hash profile root' raw' path' := .of_made rootMade' made'
  refine ⟨fun error failed => parts.error_eq failed, ?_, parts.combine_eq parts', ?_⟩
  · intro combined done
    rw [parts.ok_eq done]
    have rootCount := (MountRelativePath.fromRaw_unix rootMade).2.2
    refine ⟨components_join root raw, ?_, parts.rootAccepted.join_named parts.accepted,
      parts.rootAccepted.join_nul parts.accepted⟩
    rw [rootCount, RootRelativePath.fromRaw_count made]
    exact List.length_append
  · intro combined combined' done done'
    rw [parts.ok_eq done, parts'.ok_eq done']
    constructor
    · intro same
      have joined := parts.join_eq parts' same
      exact ⟨joined, congrArg (profile.calculatePathKey hash) joined⟩
    · intro differ joined
      apply differ
      rw [← components_join, ← components_join]
      exact congrArg components joined

def picturesProfile : PathSemanticsProfile := ⟨Bytes32.filled 0x52, .unixBytes, 2⟩

/-- `P/A` with `b` below it and `P` with `A/b` below it. -/
theorem combineMountRelative_components_pictures :
    let hash : List UInt8 → Bytes32 := fun _ => Bytes32.filled 0
    let path : RootRelativePath := ⟨.unixBytes, asciiBytes "b", asciiBytes "b", 1, Bytes32.filled 1⟩
    let path' : RootRelativePath :=
      ⟨.unixBytes, asciiBytes "A/b", asciiBytes "A/b", 2, Bytes32.filled 2⟩
    (∀ combined, combineMountRelative hash (asciiBytes "P/A") path picturesProfile = .ok combined →
      components combined.raw = [asciiBytes "P", asciiBytes "A", asciiBytes "b"] ∧
        combined.componentCount = 3) ∧
    combineMountRelative hash (asciiBytes "P/A") path picturesProfile =
      combineMountRelative hash (asciiBytes "P") path' picturesProfile := by
  intro hash path path'
  obtain ⟨-, combines, split, -⟩ := combineMountRelative_components hash picturesProfile
    (show MountRelativePath.fromRaw hash (asciiBytes "P/A") .unixBytes picturesProfile =
      .ok (unixPath hash picturesProfile (asciiBytes "P/A") 2) by rfl)
    (show RootRelativePath.fromRaw (asciiBytes "b") .unixBytes (Bytes32.filled 1) = .ok path by rfl)
    (show MountRelativePath.fromRaw hash (asciiBytes "P") .unixBytes picturesProfile =
      .ok (unixPath hash picturesProfile (asciiBytes "P") 1) by rfl)
    (show RootRelativePath.fromRaw (asciiBytes "A/b") .unixBytes (Bytes32.filled 2) =
      .ok path' by rfl)
  refine ⟨fun combined done => ?_, split (by decide)⟩
  obtain ⟨listed, counted, -⟩ := combines combined done
  exact ⟨listed.trans (by decide), counted⟩

end Guiying.Volume
