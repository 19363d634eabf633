import Guiying.Foundation.ByteString

/-!
# Decimal digits of a fixed width

A number below a power of ten and its digits in that width, leading zeros
included, determine each other.
-/

namespace Guiying.Foundation.FixedDigits

open ByteString

def IsDigit (byte : UInt8) : Prop := ascii '0' ≤ byte ∧ byte ≤ ascii '9'

instance (byte : UInt8) : Decidable (IsDigit byte) := inferInstanceAs (Decidable (_ ∧ _))

/-- The digits of the remainder of a number by a power of ten. -/
def digits : Nat → Nat → List UInt8
  | 0, _ => []
  | width + 1, number => digits width (number / 10) ++ [UInt8.ofNat (48 + number % 10)]

def value (bytes : List UInt8) : Nat :=
  bytes.foldl (fun number byte => number * 10 + (byte.toNat - 48)) 0

variable {bytes : List UInt8} {byte : UInt8} {width number : Nat}

theorem isDigit_iff : IsDigit byte ↔ 48 ≤ byte.toNat ∧ byte.toNat ≤ 57 := Iff.rfl

@[simp] theorem length_digits (width number : Nat) : (digits width number).length = width := by
  induction width generalizing number with
  | zero => rfl
  | succ width ih => rw [digits, List.length_append, ih, List.length_singleton]

theorem toNat_digit (number : Nat) : (UInt8.ofNat (48 + number % 10)).toNat = 48 + number % 10 :=
  UInt8.toNat_ofNat_of_lt' (show 48 + number % 10 < 256 by omega)

theorem isDigit_of_mem_digits (member : byte ∈ digits width number) : IsDigit byte := by
  induction width generalizing number with
  | zero => cases member
  | succ width ih =>
      rcases List.mem_append.mp member with high | low
      · exact ih high
      · rw [List.mem_singleton.mp low, isDigit_iff, toNat_digit]
        omega

theorem value_append_singleton (bytes : List UInt8) (byte : UInt8) :
    value (bytes ++ [byte]) = value bytes * 10 + (byte.toNat - 48) := by
  unfold value
  rw [List.foldl_append]
  rfl

theorem value_digits (width number : Nat) : value (digits width number) = number % 10 ^ width := by
  induction width generalizing number with
  | zero =>
      rw [pow_zero, Nat.mod_one]
      rfl
  | succ width ih =>
      rw [digits, value_append_singleton, ih, toNat_digit, pow_succ', Nat.mod_mul]
      omega

theorem value_digits_of_lt (small : number < 10 ^ width) :
    value (digits width number) = number := by
  rw [value_digits, Nat.mod_eq_of_lt small]

theorem value_lt (all : ∀ byte ∈ bytes, IsDigit byte) : value bytes < 10 ^ bytes.length := by
  induction bytes using List.reverseRecOn with
  | nil => exact Nat.one_pos
  | append_singleton bytes last ih =>
      have before := ih fun byte member => all byte (List.mem_append_left _ member)
      have digit := isDigit_iff.mp (all last (List.mem_append_right _ List.mem_cons_self))
      rw [value_append_singleton, List.length_append, List.length_singleton, pow_succ]
      omega

theorem digits_value (all : ∀ byte ∈ bytes, IsDigit byte) :
    digits bytes.length (value bytes) = bytes := by
  induction bytes using List.reverseRecOn with
  | nil => rfl
  | append_singleton bytes last ih =>
      have before := ih fun byte member => all byte (List.mem_append_left _ member)
      have digit := isDigit_iff.mp (all last (List.mem_append_right _ List.mem_cons_self))
      have high : (value bytes * 10 + (last.toNat - 48)) / 10 = value bytes := by omega
      have low : 48 + (value bytes * 10 + (last.toNat - 48)) % 10 = last.toNat := by omega
      rw [value_append_singleton, List.length_append, List.length_singleton, digits, high, low,
        before, UInt8.ofNat_toNat]

/-- A byte string is the digits of a number exactly when all its bytes are digits. -/
theorem eq_digits_iff (bytes : List UInt8) (number : Nat) :
    ((∀ byte ∈ bytes, IsDigit byte) ∧ value bytes = number) ↔
      bytes = digits bytes.length number ∧ number < 10 ^ bytes.length := by
  constructor
  · rintro ⟨all, rfl⟩
    exact ⟨(digits_value all).symm, value_lt all⟩
  · rintro ⟨same, small⟩
    refine ⟨fun byte member => ?_, ?_⟩
    · rw [same] at member
      exact isDigit_of_mem_digits member
    · rw [same, value_digits_of_lt small]

end Guiying.Foundation.FixedDigits
