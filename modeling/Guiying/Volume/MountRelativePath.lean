import Guiying.Foundation.Base64
import Guiying.Volume.Path

/-!
# Mount-relative paths

A path below a mount root with the keys of the profile it was read under, and the
form it is stored in. The stored form carries the exact bytes, the display text
and both keys, and all of them are recomputed when it is read back.
-/

namespace Guiying.Volume

open Guiying.Foundation ByteString Outcome

/-- What a path key depends on. -/
structure PathSemanticsProfile where
  profileKey : Bytes32
  encoding : NativePathEncoding
  keyAlgorithmVersion : Nat
  deriving DecidableEq

structure MountRelativePath where
  encoding : NativePathEncoding
  raw : List UInt8
  display : List UInt8
  profileKey : Bytes32
  stablePathKey : Bytes32
  componentCount : Nat
  deriving DecidableEq

structure SerializedMountRelativePath where
  display : List UInt8
  encoding : NativePathEncoding
  rawBase64 : List UInt8
  profileKey : Bytes32
  stablePathKey : Bytes32
  deriving DecidableEq

def maxBase64PathBytes : Nat := (maxRelativePathBytes + 2) / 3 * 4

variable (hash : List UInt8 → Bytes32)

def PathSemanticsProfile.calculatePathKey (profile : PathSemanticsProfile) (raw : List UInt8) :
    Bytes32 :=
  hash (asciiBytes "guiying.path-key.v2\x00" ++ leBytes 4 profile.keyAlgorithmVersion ++
    profile.profileKey.bytes ++ [profile.encoding.domainByte] ++ leBytes 8 raw.length ++ raw)

namespace MountRelativePath

def fromRaw (raw : List UInt8) (encoding : NativePathEncoding) (profile : PathSemanticsProfile) :
    Except PathError MountRelativePath :=
  if encoding ≠ profile.encoding then .error .encodingProfileMismatch
  else if maxRelativePathBytes < raw.length then .error (.pathTooLong maxRelativePathBytes)
  else do
    let componentCount ← validateNative raw encoding
    .ok
      { encoding, raw, display := displayRaw raw encoding, profileKey := profile.profileKey
        stablePathKey := profile.calculatePathKey hash raw, componentCount }

def toSerialized (path : MountRelativePath) : SerializedMountRelativePath where
  display := path.display
  encoding := path.encoding
  rawBase64 := Base64.encode path.raw
  profileKey := path.profileKey
  stablePathKey := path.stablePathKey

def fromSerialized (serialized : SerializedMountRelativePath) (profile : PathSemanticsProfile) :
    Except PathError MountRelativePath := do
  refuse (serialized.profileKey ≠ profile.profileKey) .profileMismatch
  refuse (decide (maxDisplayPathBytes < serialized.display.length))
    (.displayTooLong maxDisplayPathBytes)
  refuse (decide (maxBase64PathBytes < serialized.rawBase64.length))
    (.pathTooLong maxRelativePathBytes)
  let raw ← orError .invalidBase64 (Base64.decode serialized.rawBase64)
  refuse (Base64.encode raw ≠ serialized.rawBase64) .invalidBase64
  let path ← fromRaw hash raw serialized.encoding profile
  refuse (path.display ≠ serialized.display) .displayMismatch
  refuse (path.stablePathKey ≠ serialized.stablePathKey) .pathKeyMismatch
  .ok path

variable {hash} {profile : PathSemanticsProfile} {path : MountRelativePath}

/-- What a path that was accepted is made of. -/
theorem fromRaw_eq_ok {raw : List UInt8} {encoding : NativePathEncoding} :
    fromRaw hash raw encoding profile = .ok path ↔
      encoding = profile.encoding ∧ raw.length ≤ maxRelativePathBytes ∧
        ∃ componentCount, validateNative raw encoding = .ok componentCount ∧
          path = ⟨encoding, raw, displayRaw raw encoding, profile.profileKey,
            profile.calculatePathKey hash raw, componentCount⟩ := by
  unfold fromRaw
  constructor
  · intro accepted
    split_ifs at accepted with encodings long
    obtain ⟨componentCount, valid, accepted⟩ := bind_eq_ok.mp accepted
    cases accepted
    exact ⟨not_not.mp encodings, not_lt.mp long, componentCount, valid, rfl⟩
  · rintro ⟨encodings, fits, componentCount, valid, rfl⟩
    rw [if_neg (not_not.mpr encodings), if_neg (not_lt.mpr fits)]
    exact bind_eq_ok.mpr ⟨componentCount, valid, rfl⟩

/-- The form that a path was read from is the one it is stored in. -/
theorem toSerialized_of_fromSerialized {serialized : SerializedMountRelativePath}
    (read : fromSerialized hash serialized profile = .ok path) :
    path.toSerialized = serialized := by
  obtain ⟨_, profiles, read⟩ := bind_eq_ok.mp read
  obtain ⟨_, -, read⟩ := bind_eq_ok.mp read
  obtain ⟨_, -, read⟩ := bind_eq_ok.mp read
  obtain ⟨raw, -, read⟩ := bind_eq_ok.mp read
  obtain ⟨_, canonical, read⟩ := bind_eq_ok.mp read
  obtain ⟨accepted, made, read⟩ := bind_eq_ok.mp read
  obtain ⟨_, displays, read⟩ := bind_eq_ok.mp read
  obtain ⟨_, keys, read⟩ := bind_eq_ok.mp read
  cases read
  have profiles : serialized.profileKey = profile.profileKey := by
    simpa using refuse_eq_ok.mp profiles
  have canonical : Base64.encode raw = serialized.rawBase64 := by
    simpa using refuse_eq_ok.mp canonical
  have displays : path.display = serialized.display := by simpa using refuse_eq_ok.mp displays
  have keys : path.stablePathKey = serialized.stablePathKey := by
    simpa using refuse_eq_ok.mp keys
  obtain ⟨-, -, _, -, rfl⟩ := fromRaw_eq_ok.mp made
  simp only [toSerialized] at displays keys ⊢
  rw [displays, keys, canonical, ← profiles]

/-- A path that was accepted is read back from its stored form; no ceiling is in the way. -/
theorem fromSerialized_toSerialized {raw : List UInt8} {encoding : NativePathEncoding}
    (accepted : fromRaw hash raw encoding profile = .ok path) :
    fromSerialized hash path.toSerialized profile = .ok path := by
  obtain ⟨-, fits, componentCount, -, made⟩ := fromRaw_eq_ok.mp accepted
  have display : path.toSerialized.display.length ≤ maxDisplayPathBytes := by
    have grown := length_displayRaw_le raw encoding
    rw [made]
    simp only [toSerialized, maxDisplayPathBytes]
    omega
  have base64 : path.toSerialized.rawBase64.length ≤ maxBase64PathBytes := by
    have encoded := Base64.length_encode_le raw
    rw [made]
    simp only [toSerialized, maxBase64PathBytes]
    omega
  have decoded : Base64.decode path.toSerialized.rawBase64 = some path.raw :=
    Base64.decode_encode path.raw
  have again : fromRaw hash path.raw path.toSerialized.encoding profile = .ok path := by
    rw [made] at accepted ⊢
    exact accepted
  have profileKey : path.profileKey = profile.profileKey := by rw [made]
  unfold fromSerialized
  apply bind_eq_ok.mpr ⟨(), refuse_eq_ok.mpr (by simp [toSerialized, profileKey]), _⟩
  apply bind_eq_ok.mpr ⟨(), refuse_eq_ok.mpr (by simpa using display), _⟩
  apply bind_eq_ok.mpr ⟨(), refuse_eq_ok.mpr (by simpa using base64), _⟩
  apply bind_eq_ok.mpr ⟨path.raw, orError_eq_ok.mpr decoded, _⟩
  apply bind_eq_ok.mpr ⟨(), refuse_eq_ok.mpr (by simp [toSerialized]), _⟩
  apply bind_eq_ok.mpr ⟨path, again, _⟩
  apply bind_eq_ok.mpr ⟨(), refuse_eq_ok.mpr (by simp [toSerialized]), _⟩
  exact bind_eq_ok.mpr ⟨(), refuse_eq_ok.mpr (by simp [toSerialized]), rfl⟩

/-- Storing and reading are inverse to each other on what a profile accepts. -/
structure SerializationBijective (hash : List UInt8 → Bytes32) (profile : PathSemanticsProfile) :
    Prop where
  read : ∀ raw encoding path, fromRaw hash raw encoding profile = .ok path →
    fromSerialized hash path.toSerialized profile = .ok path
  stored : ∀ serialized path, fromSerialized hash serialized profile = .ok path →
    path.toSerialized = serialized
  single : ∀ serialized other path, fromSerialized hash serialized profile = .ok path →
    fromSerialized hash other profile = .ok path → serialized = other

theorem serialization_bijective (hash : List UInt8 → Bytes32) (profile : PathSemanticsProfile) :
    SerializationBijective hash profile where
  read _ _ _ accepted := fromSerialized_toSerialized accepted
  stored _ _ read := toSerialized_of_fromSerialized read
  single _ _ _ read otherRead :=
    (toSerialized_of_fromSerialized read).symm.trans (toSerialized_of_fromSerialized otherRead)

end MountRelativePath

end Guiying.Volume
