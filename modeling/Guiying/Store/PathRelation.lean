import Guiying.Store.Error
import Guiying.Volume.Combine

/-!
# Paths in the store

The store checks the paths of an observation with rules of its own: each raw path
under its encoding tag, each display text, and that the mount-relative path is the
scan root followed by the root-relative path. The rules for raw bytes are those of
the volume; the limit for display text is not.
-/

namespace Guiying.Store

open Guiying.Foundation ByteString Outcome
open Guiying.Volume (slash dotName parentName isWindowsSeparator unitOf)

def maxPathBytes : Nat := 64 * 1024

def pathTooLong : String := s!"path exceeds {maxPathBytes} bytes"

/-! ## Display text

Text is kept as its UTF-8 bytes. -/

def validateRelativePath (field : String) (value : List UInt8) (allowEmpty : Bool) :
    Result Unit :=
  if maxPathBytes < value.length then .error (.invalidInput field pathTooLong)
  else if value = [] then
    if allowEmpty then .ok () else .error (.invalidInput field "path must not be empty")
  else if value.head? = some slash ∨ 0 ∈ value then
    .error (.invalidInput field "path must be relative and contain no NUL")
  else if ∃ component ∈ value.splitOn slash,
      component = [] ∨ component = dotName ∨ component = parentName then
    .error (.invalidInput field "path contains an empty, dot, or parent component")
  else .ok ()

def joinDisplayPath (rootDisplay relativeDisplay : List UInt8) : Result (List UInt8) := do
  validateRelativePath "root_display" rootDisplay true
  validateRelativePath "display_path" relativeDisplay false
  if rootDisplay = [] then .ok relativeDisplay
  else do
    refuse (decide (maxPathBytes < rootDisplay.length + 1 + relativeDisplay.length))
      (.invalidInput "display_path" pathTooLong)
    .ok (rootDisplay ++ slash :: relativeDisplay)

/-! ## Raw paths -/

def isUnixTag (encoding : String) : Prop := encoding = "utf8" ∨ encoding = "unix_bytes"

instance (encoding : String) : Decidable (isUnixTag encoding) :=
  inferInstanceAs (Decidable (_ ∨ _))

def isSupportedTag (encoding : String) : Prop :=
  isUnixTag encoding ∨ encoding = "windows_utf16_le"

instance (encoding : String) : Decidable (isSupportedTag encoding) :=
  inferInstanceAs (Decidable (_ ∨ _))

def validateUnixComponents (componentCount : Nat) : List (List UInt8) → Result Unit
  | [] => .ok ()
  | component :: rest => do
      refuse (component = [] || component = dotName || component = parentName)
        (.invalidInput "relative_path_raw"
          "Unix path contains an empty, dot, or parent component")
      refuse (decide (16 * 1024 < component.length))
        (.invalidInput "relative_path_raw" "Unix path component exceeds 16384 bytes")
      refuse (decide (1024 < componentCount + 1))
        (.invalidInput "relative_path_raw" "Unix path exceeds 1024 components")
      validateUnixComponents (componentCount + 1) rest

def isWindowsDeviceComponent (component : List UInt16) : Bool :=
  Volume.isWindowsDevice component

def validateWindowsComponents (componentCount : Nat) : List (List UInt16) → Result Unit
  | [] => .ok ()
  | component :: rest => do
      refuse (component = [] || component = [unitOf '.'] || component = [unitOf '.', unitOf '.'] ||
          component.getLast?.any fun unit => unit = unitOf '.' || unit = unitOf ' ')
        (.invalidInput "relative_path_raw"
          "Windows path contains an empty, dot, parent, or ambiguous trailing component")
      refuse (decide (16 * 1024 < component.length * 2))
        (.invalidInput "relative_path_raw" "Windows path component exceeds 16384 bytes")
      refuse (component.any fun unit => unit < 0x20 || unit ∈ Volume.windowsForbidden)
        (.invalidInput "relative_path_raw"
          "Windows path contains a control or forbidden character")
      refuse (isWindowsDeviceComponent component)
        (.invalidInput "relative_path_raw" "Windows path contains a reserved device component")
      refuse (decide (1024 < componentCount + 1))
        (.invalidInput "relative_path_raw" "Windows path exceeds 1024 components")
      validateWindowsComponents (componentCount + 1) rest

def validateWindowsUtf16RelativePath (value : List UInt8) : Result Unit := do
  let codeUnits := Utf16.units value
  refuse (value.length % 2 ≠ 0)
    (.invalidInput "relative_path_raw"
      "windows_utf16_le path must contain complete 16-bit code units")
  refuse (codeUnits.head?.any isWindowsSeparator || 0 ∈ codeUnits || unitOf ':' ∈ codeUnits)
    (.invalidInput "relative_path_raw"
      ("Windows path must be relative and contain no NUL, drive prefix, or " ++
        "alternate-data-stream colon"))
  validateWindowsComponents 0 (codeUnits.splitOnP isWindowsSeparator)

/-- The tag that comes back is the one that was given. -/
def validateRawRelativePath (display value : List UInt8) (encoding : String)
    (allowEmpty : Bool) : Result String :=
  if maxPathBytes < value.length then
    .error (.invalidInput "relative_path_raw" s!"raw path exceeds {maxPathBytes} bytes")
  else if display = [] ∧ value ≠ [] then
    .error (.invalidInput "relative_path_raw"
      "a volume-root display path must also have an empty raw path")
  else if value = [] then
    if ¬ allowEmpty ∨ display ≠ [] then
      .error (.invalidInput "relative_path_raw" "raw path must not be empty")
    else if isSupportedTag encoding then
      .ok encoding
    else .error (.invalidInput "path_encoding" "unsupported raw path encoding")
  else if isUnixTag encoding then
    if value.head? = some slash ∨ 0 ∈ value then
      .error (.invalidInput "relative_path_raw" "Unix path must be relative and contain no NUL")
    else do
      validateUnixComponents 0 (value.splitOn slash)
      refuse (encoding = "utf8" && ! Utf8.valid value)
        (.invalidInput "relative_path_raw" "utf8 path encoding requires valid UTF-8 bytes")
      refuse (encoding = "utf8" && value ≠ display)
        (.invalidInput "relative_path" "utf8 raw path must exactly match display text")
      .ok encoding
  else if encoding = "windows_utf16_le" then do
    validateWindowsUtf16RelativePath value
    .ok encoding
  else .error (.invalidInput "path_encoding" "unsupported raw path encoding")

def validatePersistedPathEvidence (display raw : List UInt8) (encoding : String)
    (allowEmpty : Bool) : Result Unit := do
  validateRelativePath "relative_path" display allowEmpty
  let _ ← validateRawRelativePath display raw encoding allowEmpty
  .ok ()

/-- The error of a raw path under the name of the field it came in. -/
def StoreError.inField (field : String) : StoreError → StoreError
  | .invalidInput _ reason => .invalidInput field reason
  | other => other

def validateV5RawPath (field : String) (raw : List UInt8) (encoding : String)
    (allowEmpty : Bool) (expectedUtf8Display : Option (List UInt8)) : Result Unit :=
  if maxPathBytes < raw.length then .error (.invalidInput field pathTooLong)
  else if raw = [] then
    if ¬ allowEmpty then .error (.invalidInput field "path must not be empty")
    else if isSupportedTag encoding then .ok ()
    else .error (.invalidInput field "unsupported path encoding")
  else do
    let display ←
      match expectedUtf8Display with
      | some display => .ok display
      | none =>
          if encoding = "utf8" then
            if Utf8.valid raw then .ok raw
            else .error (.invalidInput field "utf8 path is not valid UTF-8")
          else .ok (asciiBytes "path")
    let _ ← (validateRawRelativePath display raw encoding allowEmpty).mapError (·.inField field)
    .ok ()

/-! ## The relation -/

def decodeWindowsPathUnits (value : List UInt8) : Result (List UInt16) := do
  refuse (value.length % 2 ≠ 0)
    (.invalidInput "mount_relative_path_raw"
      "windows_utf16_le path must contain complete 16-bit code units")
  .ok (Utf16.units value)

def windowsPathComponents (value : List UInt16) : List (List UInt16) :=
  value.splitOnP isWindowsSeparator

def unixPathsMatch (root mount relative : List UInt8) : Bool :=
  if root = [] then mount = relative
  else
    decide (root.length + 1 + relative.length = mount.length) && root.isPrefixOf mount &&
      decide (mount[root.length]? = some slash) && decide (mount.drop (root.length + 1) = relative)

def windowsPathsMatch (root mount relative : List UInt8) : Result Bool := do
  let rootUnits ← decodeWindowsPathUnits root
  let mountUnits ← decodeWindowsPathUnits mount
  let relativeUnits ← decodeWindowsPathUnits relative
  let expectedRoot := if rootUnits = [] then [] else windowsPathComponents rootUnits
  .ok (decide (expectedRoot ++ windowsPathComponents relativeUnits =
    windowsPathComponents mountUnits))

def validateV5PathRelation (mountRelativeRootRaw : List UInt8) (rootPathEncoding : String)
    (mountRelativePathRaw : List UInt8) (mountPathEncoding : String)
    (rootRelativePathRaw : List UInt8) (rootRelativePathEncoding : String) : Result Unit := do
  validateV5RawPath "mount_relative_root_raw" mountRelativeRootRaw rootPathEncoding true none
  validateV5RawPath "mount_relative_path_raw" mountRelativePathRaw mountPathEncoding false none
  validateV5RawPath "root_relative_path_raw" rootRelativePathRaw rootRelativePathEncoding false
    none
  let pathsMatch ←
    if isUnixTag rootPathEncoding ∧ isUnixTag mountPathEncoding then
      .ok (decide (mountPathEncoding = rootRelativePathEncoding) &&
        unixPathsMatch mountRelativeRootRaw mountRelativePathRaw rootRelativePathRaw)
    else if rootPathEncoding = "windows_utf16_le" ∧ mountPathEncoding = "windows_utf16_le" then
      if rootRelativePathEncoding ≠ "windows_utf16_le" then
        .error (.invalidInput "path_encoding"
          "mount-relative and root-relative path encodings must match")
      else windowsPathsMatch mountRelativeRootRaw mountRelativePathRaw rootRelativePathRaw
    else .ok false
  refuse (!pathsMatch)
    (.invalidInput "mount_relative_path_raw"
      "mount-relative path must be the bound scan root followed by the root-relative path")

/-! ## Raw paths the store accepts -/

open Volume (UnixShape)

theorem validateUnixComponents_eq_ok {count : Nat} {components : List (List UInt8)}
    {done : Unit} :
    validateUnixComponents count components = .ok done ↔
      (∀ component ∈ components,
        component ≠ [] ∧ component ≠ dotName ∧ component ≠ parentName) ∧
      (∀ component ∈ components, component.length ≤ Volume.maxComponentBytes) ∧
      (components ≠ [] → count + components.length ≤ Volume.maxPathComponents) := by
  induction components generalizing count with
  | nil => simp [validateUnixComponents]
  | cons component rest ih =>
      simp only [validateUnixComponents, bind_eq_ok, refuse_eq_ok, ih, exists_const,
        Bool.or_eq_false_iff, decide_eq_false_iff_not, not_lt, List.forall_mem_cons,
        List.length_cons]
      constructor
      · rintro ⟨⟨⟨full, dot⟩, parent⟩, fits, room, named, bounded, counted⟩
        refine ⟨⟨⟨full, dot, parent⟩, named⟩, ⟨fits, bounded⟩, fun _ => ?_⟩
        cases rest with
        | nil => exact room
        | cons next others =>
            have counted := counted (List.cons_ne_nil next others)
            simp only [List.length_cons] at counted ⊢
            omega
      · rintro ⟨⟨⟨full, dot, parent⟩, named⟩, ⟨fits, bounded⟩, counted⟩
        have counted := counted (List.cons_ne_nil component rest)
        have room : count + 1 ≤ Volume.maxPathComponents := by omega
        exact ⟨⟨⟨full, dot⟩, parent⟩, fits, room, named, bounded, fun _ => by omega⟩

/-- The rules for Unix bytes are those of the volume, whatever text is displayed. -/
theorem validateRawRelativePath_unix {display value : List UInt8} {encoding tag : String}
    {allowEmpty : Bool} (unix : isUnixTag encoding) :
    validateRawRelativePath display value encoding allowEmpty = .ok tag ↔
      tag = encoding ∧ value.length ≤ maxPathBytes ∧
        (value = [] ∧ display = [] ∧ allowEmpty = true ∨
          display ≠ [] ∧ UnixShape value ∧
            (encoding = "utf8" → Utf8.valid value = true ∧ value = display)) := by
  have supported : isSupportedTag encoding := .inl unix
  unfold validateRawRelativePath
  split_ifs with long hidden empty refused absolute
  · simp only [false_iff, not_and]
    exact fun _ fits => absurd long (not_lt.mpr fits)
  · simp only [hidden.1, hidden.2, false_and, ne_eq, not_true_eq_false, or_self, and_false]
  · simp only [false_iff, not_and, not_or]
    refine fun _ _ => ⟨fun _ shown allowed => ?_, fun _ shape _ => shape.ne_nil empty⟩
    rcases refused with disallowed | shown'
    · exact disallowed allowed
    · exact shown' shown
  · simp only [not_or, not_not] at refused
    constructor
    · intro done
      cases done
      exact ⟨rfl, not_lt.mp long, .inl ⟨empty, refused.2, refused.1⟩⟩
    · rintro ⟨rfl, -⟩
      rfl
  · simp only [false_iff, not_and, empty, false_and, false_or]
    intro _ _ _ shape
    rcases absolute with slashed | nul
    · exact absurd slashed shape.relative
    · exact absurd nul shape.nul
  · have shown : display ≠ [] := fun none => hidden ⟨none, empty⟩
    rw [not_or] at absolute
    simp only [bind_eq_ok, refuse_eq_ok, exists_const, validateUnixComponents_eq_ok, empty,
      false_and, false_or, Bool.and_eq_false_iff, decide_eq_false_iff_not]
    constructor
    · rintro ⟨⟨named, bounded, counted⟩, decoded, shownAs, done⟩
      cases done
      have counted := counted (List.splitOn_ne_nil slash value)
      refine ⟨rfl, not_lt.mp long, shown, ⟨absolute.2, named, bounded, by omega⟩, ?_⟩
      intro utf8
      simpa [utf8] using And.intro decoded shownAs
    · rintro ⟨rfl, -, -, shape, text⟩
      refine ⟨⟨shape.named, shape.bounded, fun _ => by simpa using shape.counted⟩, ?_, ?_, rfl⟩
      · by_cases utf8 : tag = "utf8"
        · exact .inr (by simpa using (text utf8).1)
        · exact .inl utf8
      · by_cases utf8 : tag = "utf8"
        · exact .inr (by simpa using (text utf8).2)
        · exact .inl utf8

theorem validateV5RawPath_unix {field : String} {raw : List UInt8} {encoding : String}
    {allowEmpty : Bool} (unix : isUnixTag encoding) :
    validateV5RawPath field raw encoding allowEmpty none = .ok () ↔
      raw.length ≤ maxPathBytes ∧
        (raw = [] ∧ allowEmpty = true ∨
          UnixShape raw ∧ (encoding = "utf8" → Utf8.valid raw = true)) := by
  have supported : isSupportedTag encoding := .inl unix
  have word : asciiBytes "path" ≠ [] := by decide
  unfold validateV5RawPath
  split_ifs with long empty allowed utf8 decoded
  · simp only [false_iff, not_and]
    exact fun fits => absurd long (not_lt.mpr fits)
  · simp only [true_iff]
    exact ⟨not_lt.mp long, .inl ⟨empty, allowed⟩⟩
  · simp only [false_iff, not_and, not_or]
    exact fun _ => ⟨fun _ other => allowed other, fun shape => absurd empty shape.ne_nil⟩
  · simp only [ok_bind, bind_eq_ok, mapError_eq_ok, validateRawRelativePath_unix unix]
    constructor
    · rintro ⟨_, ⟨-, fits, ⟨nothing, -⟩ | ⟨-, shape, -⟩⟩, -⟩
      · exact absurd nothing empty
      · exact ⟨fits, .inr ⟨shape, fun _ => decoded⟩⟩
    · rintro ⟨fits, ⟨nothing, -⟩ | ⟨shape, -⟩⟩
      · exact absurd nothing empty
      · exact ⟨encoding, ⟨rfl, fits, .inr ⟨empty, shape, fun _ => ⟨decoded, trivial⟩⟩⟩, trivial⟩
  · simp only [error_bind, reduceCtorEq, false_iff, not_and, not_or]
    exact fun _ => ⟨fun nothing _ => empty nothing, fun _ text => decoded (text utf8)⟩
  · simp only [ok_bind, bind_eq_ok, mapError_eq_ok, validateRawRelativePath_unix unix]
    constructor
    · rintro ⟨_, ⟨-, fits, ⟨nothing, -⟩ | ⟨-, shape, -⟩⟩, -⟩
      · exact absurd nothing empty
      · exact ⟨fits, .inr ⟨shape, fun text => absurd text utf8⟩⟩
    · rintro ⟨fits, ⟨nothing, -⟩ | ⟨shape, -⟩⟩
      · exact absurd nothing empty
      · exact ⟨encoding, ⟨rfl, fits, .inr ⟨word, shape, fun text => absurd text utf8⟩⟩, trivial⟩

/-! ## The relation is composition -/

theorem unixPathsMatch_iff {root mount relative : List UInt8} :
    unixPathsMatch root mount relative = true ↔ mount = Volume.joinedRaw root relative := by
  unfold unixPathsMatch Volume.joinedRaw
  split_ifs with empty
  · rw [decide_eq_true_iff]
  · simp only [Bool.and_eq_true, decide_eq_true_eq, List.isPrefixOf_iff_prefix]
    constructor
    · rintro ⟨⟨⟨-, rest, rfl⟩, separator⟩, tail⟩
      cases rest with
      | nil => simp at separator
      | cons first others =>
          rw [List.getElem?_append_right le_rfl, Nat.sub_self, List.getElem?_cons_zero,
            Option.some_inj] at separator
          rw [List.drop_append, List.drop_eq_nil_of_le (Nat.le_add_right _ 1), List.nil_append,
            Nat.add_sub_cancel_left, List.drop_one, List.tail_cons] at tail
          rw [separator, tail]
    · rintro rfl
      refine ⟨⟨⟨?_, List.prefix_append root _⟩, ?_⟩, ?_⟩
      · simp only [List.length_append, List.length_cons]
        omega
      · rw [List.getElem?_append_right le_rfl, Nat.sub_self, List.getElem?_cons_zero]
      · rw [List.drop_append, List.drop_eq_nil_of_le (Nat.le_add_right _ 1), List.nil_append,
          Nat.add_sub_cancel_left, List.drop_one, List.tail_cons]

/-- What the relation says of three Unix paths. -/
theorem validateV5PathRelation_unix {root mount relative : List UInt8}
    {rootTag mountTag relativeTag : String} (rootUnix : isUnixTag rootTag)
    (mountUnix : isUnixTag mountTag) :
    validateV5PathRelation root rootTag mount mountTag relative relativeTag = .ok () ↔
      validateV5RawPath "mount_relative_root_raw" root rootTag true none = .ok () ∧
      validateV5RawPath "mount_relative_path_raw" mount mountTag false none = .ok () ∧
      validateV5RawPath "root_relative_path_raw" relative relativeTag false none = .ok () ∧
      mountTag = relativeTag ∧ mount = Volume.joinedRaw root relative := by
  have done : ∀ {field raw encoding allowEmpty}, (∃ done : Unit,
      validateV5RawPath field raw encoding allowEmpty none = .ok done) ↔
        validateV5RawPath field raw encoding allowEmpty none = .ok () :=
    ⟨fun ⟨_, accepted⟩ => accepted, fun accepted => ⟨(), accepted⟩⟩
  unfold validateV5PathRelation
  rw [if_pos ⟨rootUnix, mountUnix⟩]
  simp only [bind_eq_ok, exists_and_right, done, ok_bind, refuse_eq_ok, Bool.not_eq_false',
    Bool.and_eq_true, decide_eq_true_eq, unixPathsMatch_iff]

/-! ## Displays -/

/-- The volume's display of a path keeps to the rules for text, its length apart. -/
theorem validateRelativePath_lossy {field : String} {raw : List UInt8} {allowEmpty : Bool}
    (shape : raw = [] ∧ allowEmpty = true ∨ UnixShape raw) :
    validateRelativePath field (Utf8.lossy raw) allowEmpty = .ok () ↔
      (Utf8.lossy raw).length ≤ maxPathBytes := by
  rcases shape with ⟨rfl, rfl⟩ | shape
  · simp [validateRelativePath, Utf8.lossy, Utf8.lossyFrom, maxPathBytes]
  · have named : ∀ component ∈ (Utf8.lossy raw).splitOn slash,
        component ≠ [] ∧ component ≠ dotName ∧ component ≠ parentName := by
      intro component found
      rw [Utf8.splitOn_lossy (by decide)] at found
      obtain ⟨part, isPart, rfl⟩ := List.mem_map.mp found
      obtain ⟨full, dot, parent⟩ := shape.named part isPart
      exact ⟨Utf8.lossy_ne_nil full, mt (Utf8.eq_of_lossy_ascii (by simp [dotName])) dot,
        mt (Utf8.eq_of_lossy_ascii (by simp [parentName])) parent⟩
    have full : Utf8.lossy raw ≠ [] := Utf8.lossy_ne_nil shape.ne_nil
    have relative : (Utf8.lossy raw).head? ≠ some slash :=
      Volume.head_of_named fun component found => (named component found).1
    have nul : 0 ∉ Utf8.lossy raw := mt (Utf8.mem_lossy_iff (by decide) raw).mp shape.nul
    unfold validateRelativePath
    split_ifs with long refused unnamed
    · simpa using long
    · rcases refused with absolute | found
      · exact absurd absolute relative
      · exact absurd found nul
    · obtain ⟨component, found, same⟩ := unnamed
      obtain ⟨full, dot, parent⟩ := named component found
      exact absurd same (by simp [full, dot, parent])
    · simpa using long

theorem validatePersistedPathEvidence_lossy {raw : List UInt8} {allowEmpty : Bool}
    (fits : raw.length ≤ maxPathBytes) (shape : raw = [] ∧ allowEmpty = true ∨ UnixShape raw) :
    validatePersistedPathEvidence (Utf8.lossy raw) raw "unix_bytes" allowEmpty = .ok () ↔
      (Utf8.lossy raw).length ≤ maxPathBytes := by
  have accepted : validateRawRelativePath (Utf8.lossy raw) raw "unix_bytes" allowEmpty =
      .ok "unix_bytes" := by
    refine (validateRawRelativePath_unix (.inr rfl)).mpr ⟨rfl, fits, ?_⟩
    rcases shape with ⟨rfl, allowed⟩ | shape
    · exact .inl ⟨rfl, rfl, allowed⟩
    · refine .inr ⟨Utf8.lossy_ne_nil shape.ne_nil, shape, ?_⟩
      intro utf8
      exact absurd utf8 (by decide)
  have text : validateRelativePath "relative_path" (Utf8.lossy raw) allowEmpty = .ok () ↔
      (Utf8.lossy raw).length ≤ maxPathBytes := validateRelativePath_lossy shape
  unfold validatePersistedPathEvidence
  rw [accepted, ok_bind, ← text, bind_eq_ok]
  exact ⟨fun ⟨_, valid, _⟩ => valid, fun valid => ⟨(), valid, rfl⟩⟩

theorem lossy_joinedRaw (root raw : List UInt8) :
    Utf8.lossy (Volume.joinedRaw root raw) =
      Volume.joinedRaw (Utf8.lossy root) (Utf8.lossy raw) := by
  by_cases empty : root = []
  · subst empty
    rfl
  · have shown : Utf8.lossy root ≠ [] := Utf8.lossy_ne_nil empty
    simp only [Volume.joinedRaw, empty, shown, if_false]
    rw [Utf8.lossy_append_ascii (by decide)]

theorem joinDisplayPath_lossy {root raw : List UInt8} (rootShape : root = [] ∨ UnixShape root)
    (shape : UnixShape raw) :
    joinDisplayPath (Utf8.lossy root) (Utf8.lossy raw) =
        .ok (Utf8.lossy (Volume.joinedRaw root raw)) ↔
      (Utf8.lossy (Volume.joinedRaw root raw)).length ≤ maxPathBytes := by
  have rootText : validateRelativePath "root_display" (Utf8.lossy root) true = .ok () ↔
      (Utf8.lossy root).length ≤ maxPathBytes :=
    validateRelativePath_lossy (rootShape.imp_left fun empty => ⟨empty, rfl⟩)
  have text : validateRelativePath "display_path" (Utf8.lossy raw) false = .ok () ↔
      (Utf8.lossy raw).length ≤ maxPathBytes := validateRelativePath_lossy (.inr shape)
  rw [lossy_joinedRaw, Volume.length_joinedRaw, Volume.joinedRaw]
  unfold joinDisplayPath
  constructor
  · intro joined
    obtain ⟨_, rootValid, joined⟩ := bind_eq_ok.mp joined
    obtain ⟨_, valid, joined⟩ := bind_eq_ok.mp joined
    split_ifs at joined ⊢ with empty
    · exact text.mp valid
    · obtain ⟨_, fits, -⟩ := bind_eq_ok.mp joined
      simpa using refuse_eq_ok.mp fits
  · intro fits
    split_ifs at fits ⊢ with empty
    · have rootFits : (Utf8.lossy root).length ≤ maxPathBytes := by simp [empty]
      exact bind_eq_ok.mpr ⟨(), rootText.mpr rootFits,
        bind_eq_ok.mpr ⟨(), text.mpr fits, rfl⟩⟩
    · have rootFits : (Utf8.lossy root).length ≤ maxPathBytes := by omega
      have pathFits : (Utf8.lossy raw).length ≤ maxPathBytes := by omega
      refine bind_eq_ok.mpr ⟨(), rootText.mpr rootFits,
        bind_eq_ok.mpr ⟨(), text.mpr pathFits, bind_eq_ok.mpr ⟨(), refuse_eq_ok.mpr ?_, rfl⟩⟩⟩
      simpa using fits

/-- What the store makes of a path below a scan root, with the texts the volume displays. -/
structure StoreAgrees (root : List UInt8) (combined : Volume.MountRelativePath)
    (path : Volume.RootRelativePath) : Prop where
  related : validateV5PathRelation root "unix_bytes" combined.raw "unix_bytes" path.raw
    "unix_bytes" = .ok ()
  rootEvidence : validatePersistedPathEvidence (Volume.displayRaw root .unixBytes) root
    "unix_bytes" true = .ok ()
  combinedEvidence : validatePersistedPathEvidence combined.display combined.raw "unix_bytes"
    false = .ok ()
  pathEvidence : validatePersistedPathEvidence path.display path.raw "unix_bytes" false = .ok ()
  joined : joinDisplayPath (Volume.displayRaw root .unixBytes) path.display = .ok combined.display

variable {hash : List UInt8 → Bytes32} {profile : Volume.PathSemanticsProfile}
  {root raw : List UInt8} {key : Bytes32} {path : Volume.RootRelativePath}
  {combined : Volume.MountRelativePath}

/-- Only the length of the combined display can keep the store from taking a path. -/
theorem storeAgrees_iff_display
    (accepted : Volume.RootRelativePath.fromRaw raw .unixBytes key = .ok path) (below : raw ≠ [])
    (made : Volume.combineMountRelative hash root path profile = .ok combined) :
    StoreAgrees root combined path ↔ combined.display.length ≤ maxPathBytes := by
  obtain ⟨same, -, shown, -, -⟩ := Volume.RootRelativePath.fromRaw_unix accepted
  obtain ⟨combinedRaw, combinedShown, shape, fits⟩ := Volume.combined_unix accepted below made
  obtain ⟨rootShape, pathShape⟩ := shape.of_joinedRaw
  obtain ⟨rootFits, pathFits⟩ := Volume.length_le_joinedRaw root raw
  have rootFits : root.length ≤ maxPathBytes := rootFits.trans fits
  have pathFits : raw.length ≤ maxPathBytes := pathFits.trans fits
  obtain ⟨rootShown, pathShown⟩ :=
    Volume.length_le_joinedRaw (Utf8.lossy root) (Utf8.lossy raw)
  rw [← lossy_joinedRaw] at rootShown pathShown
  constructor
  · intro agrees
    have joined := agrees.joined
    rw [shown, combinedShown] at joined
    rw [combinedShown]
    exact (joinDisplayPath_lossy rootShape pathShape).mp joined
  · intro short
    rw [combinedShown] at short
    have noText : ∀ {bytes : List UInt8},
        (("unix_bytes" : String) = "utf8" → Utf8.valid bytes = true) :=
      fun utf8 => absurd utf8 (by decide)
    refine ⟨?_, ?_, ?_, ?_, ?_⟩
    · refine (validateV5PathRelation_unix (.inr rfl) (.inr rfl)).mpr ⟨?_, ?_, ?_, rfl, ?_⟩
      · exact (validateV5RawPath_unix (.inr rfl)).mpr
          ⟨rootFits, rootShape.imp (fun empty => ⟨empty, rfl⟩) fun shape => ⟨shape, noText⟩⟩
      · rw [combinedRaw]
        exact (validateV5RawPath_unix (.inr rfl)).mpr ⟨fits, .inr ⟨shape, noText⟩⟩
      · rw [same]
        exact (validateV5RawPath_unix (.inr rfl)).mpr ⟨pathFits, .inr ⟨pathShape, noText⟩⟩
      · rw [combinedRaw, same]
    · exact (validatePersistedPathEvidence_lossy rootFits
        (rootShape.imp_left fun empty => ⟨empty, rfl⟩)).mpr (rootShown.trans short)
    · rw [combinedShown, combinedRaw]
      exact (validatePersistedPathEvidence_lossy fits (.inr shape)).mpr short
    · rw [shown, same]
      exact (validatePersistedPathEvidence_lossy pathFits (.inr pathShape)).mpr
        (pathShown.trans short)
    · rw [shown, combinedShown]
      exact (joinDisplayPath_lossy rootShape pathShape).mpr short

/-- Bytes the relation accepts are bytes the volume composes. -/
theorem composed_of_related {mount relative : List UInt8} {rootTag mountTag relativeTag : String}
    (rootUnix : isUnixTag rootTag) (mountUnix : isUnixTag mountTag)
    (related : validateV5PathRelation root rootTag mount mountTag relative relativeTag = .ok ())
    (unix : profile.encoding = .unixBytes) (key : Bytes32) :
    (∃ accepted, Volume.MountRelativePath.fromRaw hash root .unixBytes profile = .ok accepted) ∧
      ∃ path combined, Volume.RootRelativePath.fromRaw relative .unixBytes key = .ok path ∧
        Volume.combineMountRelative hash root path profile = .ok combined ∧
        combined.raw = mount := by
  obtain ⟨rootValid, mountValid, relativeValid, sameTag, rfl⟩ :=
    (validateV5PathRelation_unix rootUnix mountUnix).mp related
  have relativeUnix : isUnixTag relativeTag := sameTag ▸ mountUnix
  obtain ⟨rootFits, rootShape⟩ := (validateV5RawPath_unix rootUnix).mp rootValid
  obtain ⟨mountFits, mountShape⟩ := (validateV5RawPath_unix mountUnix).mp mountValid
  obtain ⟨relativeFits, relativeShape⟩ := (validateV5RawPath_unix relativeUnix).mp relativeValid
  have rootShape : root = [] ∨ UnixShape root := rootShape.imp And.left And.left
  have mountShape : UnixShape (Volume.joinedRaw root relative) := by
    rcases mountShape with ⟨-, never⟩ | ⟨shape, -⟩
    · exact absurd never Bool.false_ne_true
    · exact shape
  have relativeShape : UnixShape relative := mountShape.of_joinedRaw.2
  constructor
  · have valid : ∃ count, Volume.validateUnix root = .ok count := by
      rcases rootShape with empty | shape
      · exact ⟨0, Volume.validateUnix_eq_ok.mpr (.inl ⟨empty, rfl⟩)⟩
      · exact ⟨_, Volume.validateUnix_eq_ok.mpr (.inr ⟨shape, rfl⟩)⟩
    obtain ⟨count, valid⟩ := valid
    exact ⟨_, Volume.MountRelativePath.fromRaw_eq_ok.mpr
      ⟨unix.symm, rootFits, count, valid, rfl⟩⟩
  · obtain ⟨path, accepted⟩ :=
      Volume.RootRelativePath.fromRaw_of_accepted ⟨relativeFits, .inr relativeShape⟩ key
    obtain ⟨combined, made, same⟩ := Volume.combineMountRelative_of_joined hash unix
      accepted relativeShape.ne_nil mountShape mountFits
    exact ⟨path, combined, accepted, made, same⟩

/-- The store's relation is the volume's composition, as far as the display text fits. -/
theorem pathRelation_iff (hash : List UInt8 → Bytes32) (profile : Volume.PathSemanticsProfile) :
    (∀ root raw encoding key path combined,
      Volume.RootRelativePath.fromRaw raw encoding key = .ok path → raw ≠ [] →
      Volume.combineMountRelative hash root path profile = .ok combined →
        (StoreAgrees root combined path ↔ combined.display.length ≤ maxPathBytes)) ∧
    (∀ root rootTag mount mountTag relative relativeTag key,
      isUnixTag rootTag → isUnixTag mountTag → profile.encoding = .unixBytes →
      validateV5PathRelation root rootTag mount mountTag relative relativeTag = .ok () →
        (∃ accepted,
          Volume.MountRelativePath.fromRaw hash root .unixBytes profile = .ok accepted) ∧
        ∃ path combined, Volume.RootRelativePath.fromRaw relative .unixBytes key = .ok path ∧
          Volume.combineMountRelative hash root path profile = .ok combined ∧
          combined.raw = mount) := by
  constructor
  · intro root raw encoding key path combined accepted below made
    have unix : encoding = .unixBytes := by
      obtain ⟨_, encodings, -⟩ := bind_eq_ok.mp made
      obtain ⟨_, -, same⟩ := bind_eq_ok.mp accepted
      cases same
      exact (by simpa using refuse_eq_ok.mp encodings : _ ∧ _).2
    subst unix
    exact storeAgrees_iff_display accepted below made
  · intro root rootTag mount mountTag relative relativeTag key rootUnix mountUnix unix related
    exact composed_of_related rootUnix mountUnix related unix key

/-! ### Names that are not UTF-8 -/

def unreadableName : List UInt8 := List.replicate 11000 0xFF

def plainProfile : Volume.PathSemanticsProfile where
  profileKey := .filled 0
  encoding := .unixBytes
  keyAlgorithmVersion := 2

theorem unreadableName_split : unreadableName.splitOn slash = [unreadableName] := by
  apply List.splitOn_eq_singleton
  intro found
  exact absurd (List.eq_of_mem_replicate found) (by decide)

theorem unreadableName_ne {name : List UInt8} (short : name.length < 11000) :
    unreadableName ≠ name := by
  rintro rfl
  exact absurd short (by rw [unreadableName, List.length_replicate]; exact lt_irrefl 11000)

theorem unreadableName_shape :
    UnixShape (Volume.joinedRaw unreadableName unreadableName) := by
  have split : (Volume.joinedRaw unreadableName unreadableName).splitOn slash =
      [unreadableName, unreadableName] := by
    rw [Volume.joinedRaw, if_neg (unreadableName_ne (by decide)),
      List.splitOn_append_cons_self, unreadableName_split]
    rfl
  have nul : 0 ∉ unreadableName := fun found =>
    absurd (List.eq_of_mem_replicate found) (by decide)
  have length : unreadableName.length = 11000 := List.length_replicate
  refine ⟨?_, ?_, ?_, ?_⟩
  · rw [Volume.joinedRaw, if_neg (unreadableName_ne (by decide))]
    simp only [List.mem_append, List.mem_cons, nul, or_false, false_or]
    decide
  · rw [split]
    intro component found
    have same : component = unreadableName := by simpa using found
    subst same
    exact ⟨unreadableName_ne (by decide), unreadableName_ne (by decide),
      unreadableName_ne (by decide)⟩
  · rw [split]
    intro component found
    have same : component = unreadableName := by simpa using found
    rw [same, length]
    decide
  · rw [split]
    decide

/-- A root and a file in it, each of a length that the store can display on its own. -/
theorem unreadable_not_storeAgrees : ∃ path combined,
    Volume.RootRelativePath.fromRaw unreadableName .unixBytes (.filled 0) = .ok path ∧
      Volume.combineMountRelative (fun _ => .filled 0) unreadableName path plainProfile =
        .ok combined ∧
      ¬ StoreAgrees unreadableName combined path := by
  have shape := unreadableName_shape
  have length : unreadableName.length = 11000 := List.length_replicate
  have full : unreadableName ≠ [] := unreadableName_ne (by decide)
  have joined := Volume.length_joinedRaw unreadableName unreadableName
  rw [if_neg full, length] at joined
  obtain ⟨path, accepted⟩ := Volume.RootRelativePath.fromRaw_of_accepted
    ⟨by rw [length]; decide, .inr shape.of_joinedRaw.2⟩ (.filled 0)
  obtain ⟨combined, made, -⟩ := Volume.combineMountRelative_of_joined (fun _ => .filled 0)
    (rfl : plainProfile.encoding = .unixBytes) accepted full shape (by rw [joined]; decide)
  refine ⟨path, combined, accepted, made, fun agrees => ?_⟩
  have short := (storeAgrees_iff_display accepted full made).mp agrees
  have shown : (Utf8.lossy unreadableName).length = 33000 :=
    Utf8.length_lossy_replicate (by decide) 11000
  have shownFull : Utf8.lossy unreadableName ≠ [] := List.ne_nil_of_length_pos (by omega)
  rw [(Volume.combined_unix accepted full made).2.1, lossy_joinedRaw, Volume.length_joinedRaw,
    if_neg shownFull, shown] at short
  exact absurd short (by decide)

end Guiying.Store
