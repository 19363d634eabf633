import Mathlib.Data.Nat.Digits.Lemmas
import Mathlib.Data.List.Lex
import Mathlib.Tactic.NormNum

/-!
# Byte strings

Bytes are `UInt8`; a byte string is a list. The readers give the unsigned value
of a byte string in either byte order, `leBytes` writes one back, and `slice` is
the range of a byte string at an offset.
-/

namespace Guiying.Foundation

namespace ByteString

/-- The byte of an ASCII character. -/
abbrev ascii (character : Char) : UInt8 := UInt8.ofNat character.toNat

def asciiBytes (text : String) : List UInt8 := text.toList.map ascii

def readLittleEndian (bytes : List UInt8) : Nat := Nat.ofDigits 256 (bytes.map UInt8.toNat)

def readBigEndian (bytes : List UInt8) : Nat := readLittleEndian bytes.reverse

theorem readLittleEndian_lt (bytes : List UInt8) : readLittleEndian bytes < 256 ^ bytes.length := by
  unfold readLittleEndian
  have bound := Nat.ofDigits_lt_base_pow_length (b := 256) (l := bytes.map UInt8.toNat)
    (by norm_num) (by
      intro digit member
      obtain ⟨byte, _, rfl⟩ := List.mem_map.mp member
      exact byte.toNat_lt)
  simpa using bound

theorem readBigEndian_lt (bytes : List UInt8) : readBigEndian bytes < 256 ^ bytes.length := by
  simpa [readBigEndian] using readLittleEndian_lt bytes.reverse

/-- The `width` low bytes of a number, least significant first. -/
def leBytes : Nat → Nat → List UInt8
  | 0, _ => []
  | width + 1, value => UInt8.ofNat (value % 256) :: leBytes width (value / 256)

@[simp] theorem length_leBytes (width value : Nat) : (leBytes width value).length = width := by
  induction width generalizing value with
  | zero => rfl
  | succ width ih => simp [leBytes, ih]

theorem readLittleEndian_leBytes {width value : Nat} (fits : value < 256 ^ width) :
    readLittleEndian (leBytes width value) = value := by
  induction width generalizing value with
  | zero =>
      have zero : value = 0 := by simpa using fits
      subst zero
      rfl
  | succ width ih =>
      have smaller : value / 256 < 256 ^ width :=
        Nat.div_lt_of_lt_mul (by rwa [pow_succ, Nat.mul_comm] at fits)
      have tail := ih smaller
      unfold readLittleEndian at tail ⊢
      have digit : (UInt8.ofNat (value % 256)).toNat = value % 256 :=
        UInt8.toNat_ofNat_of_lt (Nat.mod_lt _ (by norm_num))
      rw [leBytes, List.map_cons, Nat.ofDigits_cons, tail, digit]
      exact Nat.mod_add_div value 256

/-- Every byte string is the number it spells, written back. -/
theorem leBytes_readLittleEndian (bytes : List UInt8) :
    leBytes bytes.length (readLittleEndian bytes) = bytes := by
  induction bytes with
  | nil => rfl
  | cons byte bytes ih =>
      have spelled : readLittleEndian (byte :: bytes) = byte.toNat + 256 * readLittleEndian bytes := by
        unfold readLittleEndian
        rw [List.map_cons, Nat.ofDigits_cons]
      have small := byte.toNat_lt
      rw [spelled, List.length_cons, leBytes,
        show (byte.toNat + 256 * readLittleEndian bytes) % 256 = byte.toNat by omega,
        show (byte.toNat + 256 * readLittleEndian bytes) / 256 = readLittleEndian bytes by omega, ih]
      rw [UInt8.ofNat_toNat]

/-- The `length` bytes of a string at `offset`; shorter when the string ends early. -/
def slice (bytes : List UInt8) (offset length : Nat) : List UInt8 :=
  (bytes.drop offset).take length

theorem length_slice {bytes : List UInt8} {offset length : Nat}
    (inside : offset + length ≤ bytes.length) : (slice bytes offset length).length = length := by
  unfold slice
  rw [List.length_take, List.length_drop]
  omega

/-- The `width` low bytes of a number, most significant first. -/
def beBytes (width value : Nat) : List UInt8 := (leBytes width value).reverse

@[simp] theorem length_beBytes (width value : Nat) : (beBytes width value).length = width := by
  simp [beBytes]

theorem readBigEndian_beBytes {width value : Nat} (fits : value < 256 ^ width) :
    readBigEndian (beBytes width value) = value := by
  rw [readBigEndian, beBytes, List.reverse_reverse, readLittleEndian_leBytes fits]

theorem beBytes_readBigEndian (bytes : List UInt8) :
    beBytes bytes.length (readBigEndian bytes) = bytes := by
  have written := leBytes_readLittleEndian bytes.reverse
  rw [List.length_reverse] at written
  rw [beBytes, readBigEndian, written, List.reverse_reverse]

/-- Zeros in front do not change a big-endian number. -/
theorem readBigEndian_padded (count : Nat) (bytes : List UInt8) :
    readBigEndian (List.replicate count 0 ++ bytes) = readBigEndian bytes := by
  simp [readBigEndian, readLittleEndian, Nat.ofDigits_append]

/-- `part` stands in the bytes at `offset`. -/
def StandsAt (bytes : List UInt8) (offset : Nat) (part : List UInt8) : Prop :=
  part <+: bytes.drop offset

theorem StandsAt.slice_eq {bytes part : List UInt8} {offset : Nat}
    (stands : StandsAt bytes offset part) : slice bytes offset part.length = part :=
  (List.prefix_iff_eq_take.mp stands).symm

theorem standsAt_slice (bytes : List UInt8) (offset length : Nat) :
    StandsAt bytes offset (slice bytes offset length) := List.take_prefix _ _

theorem StandsAt.left {bytes first second : List UInt8} {offset : Nat}
    (stands : StandsAt bytes offset (first ++ second)) : StandsAt bytes offset first :=
  (List.prefix_append first second).trans stands

theorem StandsAt.right {bytes first second : List UInt8} {offset : Nat}
    (stands : StandsAt bytes offset (first ++ second)) :
    StandsAt bytes (offset + first.length) second := by
  obtain ⟨rest, same⟩ := stands
  refine ⟨rest, ?_⟩
  rw [← List.drop_drop, ← same, List.append_assoc, List.drop_left]

theorem StandsAt.append {bytes first second : List UInt8} {offset : Nat}
    (stands : StandsAt bytes offset first)
    (behind : StandsAt bytes (offset + first.length) second) :
    StandsAt bytes offset (first ++ second) := by
  obtain ⟨rest, same⟩ := stands
  unfold StandsAt at behind ⊢
  rw [← List.drop_drop, ← same, List.drop_left] at behind
  rw [← same]
  exact List.prefix_append_right_inj first |>.mpr behind

theorem StandsAt.inside {bytes part : List UInt8} {offset : Nat}
    (stands : StandsAt bytes offset part) (nonempty : part ≠ []) :
    offset + part.length ≤ bytes.length := by
  have size := stands.length_le
  have positive := List.length_pos_iff.mpr nonempty
  rw [List.length_drop] at size
  omega

theorem slice_append (bytes : List UInt8) (offset first second : Nat) :
    slice bytes offset first ++ slice bytes (offset + first) second =
      slice bytes offset (first + second) := by
  unfold slice
  rw [← List.drop_drop, List.take_add]

theorem drop_eq_slice_append (bytes : List UInt8) (offset length : Nat) :
    bytes.drop offset = slice bytes offset length ++ bytes.drop (offset + length) := by
  rw [slice, ← List.drop_drop, List.take_append_drop]

theorem take_add_slice (bytes : List UInt8) (offset length : Nat) :
    bytes.take (offset + length) = bytes.take offset ++ slice bytes offset length :=
  List.take_add

end ByteString

/-- A 32-byte identifier, compared byte by byte from the front. -/
structure Bytes32 where
  bytes : List UInt8
  length_eq : bytes.length = 32
  deriving DecidableEq

namespace Bytes32

@[ext] theorem ext {left right : Bytes32} (same : left.bytes = right.bytes) : left = right := by
  cases left
  cases right
  cases same
  rfl

/-- The bytes as numbers: their lexicographic order is the order of the identifier. -/
def orderKey (identifier : Bytes32) : List Nat := identifier.bytes.map UInt8.toNat

theorem orderKey_injective : Function.Injective orderKey := by
  intro left right same
  exact ext (List.map_injective_iff.mpr (fun _ _ => UInt8.toNat_inj.mp) same)

instance : LinearOrder Bytes32 := LinearOrder.lift' orderKey orderKey_injective

/-- Thirty-two copies of one byte. -/
def filled (byte : UInt8) : Bytes32 := ⟨List.replicate 32 byte, by simp⟩

end Bytes32

end Guiying.Foundation
