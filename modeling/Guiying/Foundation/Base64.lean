import Guiying.Foundation.ByteString

/-!
# Base64 without padding

The standard alphabet, three bytes to four characters; a last group of one or two
bytes takes two or three characters.
-/

namespace Guiying.Foundation.Base64

open ByteString

def alphabet : List UInt8 :=
  asciiBytes "ABCDEFGHIJKLMNOPQRSTUVWXYZabcdefghijklmnopqrstuvwxyz0123456789+/"

/-- The character of a six-bit value. -/
def sextet (value : Nat) : UInt8 := alphabet.getD (value % 64) 0

def encode : List UInt8 → List UInt8
  | [] => []
  | [first] =>
      let bits := first.toNat * 16
      [sextet (bits / 64), sextet bits]
  | [first, second] =>
      let bits := (first.toNat * 256 + second.toNat) * 4
      [sextet (bits / 4096), sextet (bits / 64), sextet bits]
  | first :: second :: third :: rest =>
      let bits := (first.toNat * 256 + second.toNat) * 256 + third.toNat
      sextet (bits / 262144) :: sextet (bits / 4096) :: sextet (bits / 64) :: sextet bits ::
        encode rest

/-- The six-bit value of a character. -/
def sextetValue (character : UInt8) : Option Nat := alphabet.findIdx? (· = character)

/-- Characters outside the alphabet, padding and bits left over after the last byte are refused. -/
def decode : List UInt8 → Option (List UInt8)
  | [] => some []
  | [_] => none
  | [first, second] => do
      let bits := (← sextetValue first) * 64 + (← sextetValue second)
      if bits % 16 = 0 then some [UInt8.ofNat (bits / 16)] else none
  | [first, second, third] => do
      let bits := ((← sextetValue first) * 64 + (← sextetValue second)) * 64 +
        (← sextetValue third)
      if bits % 4 = 0 then some [UInt8.ofNat (bits / 1024), UInt8.ofNat (bits / 4)] else none
  | first :: second :: third :: fourth :: rest => do
      let bits := (((← sextetValue first) * 64 + (← sextetValue second)) * 64 +
        (← sextetValue third)) * 64 + (← sextetValue fourth)
      let others ← decode rest
      some (UInt8.ofNat (bits / 65536) :: UInt8.ofNat (bits / 256) :: UInt8.ofNat bits :: others)

theorem sextetValue_sextet (value : Nat) : sextetValue (sextet value) = some (value % 64) := by
  have each : ∀ digit < 64, sextetValue (alphabet.getD digit 0) = some digit := by decide +kernel
  exact each (value % 64) (Nat.mod_lt _ (by decide))

theorem ofNat_eq_of_mod {value : Nat} {byte : UInt8} (same : value % 256 = byte.toNat) :
    UInt8.ofNat value = byte := by
  apply UInt8.toNat_inj.mp
  rw [UInt8.toNat_ofNat', same]

theorem decode_encode (bytes : List UInt8) : decode (encode bytes) = some bytes := by
  fun_induction encode bytes with
  | case1 => rfl
  | case2 first bits =>
      have small := first.toNat_lt
      simp only [decode, sextetValue_sextet, Option.bind_eq_bind, Option.bind_some]
      rw [if_pos (by omega), ofNat_eq_of_mod (by omega : _ = first.toNat)]
  | case3 first second bits =>
      have small₁ := first.toNat_lt
      have small₂ := second.toNat_lt
      simp only [decode, sextetValue_sextet, Option.bind_eq_bind, Option.bind_some]
      rw [if_pos (by omega), ofNat_eq_of_mod (by omega : _ = first.toNat),
        ofNat_eq_of_mod (by omega : _ = second.toNat)]
  | case4 first second third rest bits ih =>
      have small₁ := first.toNat_lt
      have small₂ := second.toNat_lt
      have small₃ := third.toNat_lt
      simp only [decode, sextetValue_sextet, Option.bind_eq_bind, Option.bind_some, ih]
      rw [ofNat_eq_of_mod (by omega : _ = first.toNat),
        ofNat_eq_of_mod (by omega : _ = second.toNat),
        ofNat_eq_of_mod (by omega : _ = third.toNat)]

theorem length_encode_le (bytes : List UInt8) :
    (encode bytes).length ≤ (bytes.length + 2) / 3 * 4 := by
  fun_induction encode bytes with
  | case1 => decide
  | case2 => simp
  | case3 => simp
  | case4 first second third rest bits ih =>
      simp only [List.length_cons]
      omega

example : encode (asciiBytes "Maus") = asciiBytes "TWF1cw" := by decide +kernel

end Guiying.Foundation.Base64
