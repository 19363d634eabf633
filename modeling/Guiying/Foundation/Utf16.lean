import Guiying.Foundation.ByteString

/-!
# Lossy UTF-16

Code units are read from little-endian bytes; a surrogate without its partner is
decoded to the replacement character.
-/

namespace Guiying.Foundation.Utf16

/-- The code units of little-endian bytes; an odd last byte is left out. -/
def units : List UInt8 → List UInt16
  | low :: high :: rest => UInt16.ofNat (low.toNat + 256 * high.toNat) :: units rest
  | _ => []

def isHighSurrogate (unit : UInt16) : Bool := 0xD800 ≤ unit && unit ≤ 0xDBFF

def isLowSurrogate (unit : UInt16) : Bool := 0xDC00 ≤ unit && unit ≤ 0xDFFF

def replacement : Char := Char.ofNat 0xFFFD

/-- The scalar of a surrogate pair. -/
def pairScalar (high low : UInt16) : Char :=
  Char.ofNat (0x10000 + (high.toNat - 0xD800) * 0x400 + (low.toNat - 0xDC00))

/-- `char::decode_utf16` with every error replaced. -/
def lossy : List UInt16 → List Char
  | [] => []
  | unit :: [] =>
      [if isHighSurrogate unit || isLowSurrogate unit then replacement else Char.ofNat unit.toNat]
  | unit :: next :: rest =>
      if isHighSurrogate unit && isLowSurrogate next then pairScalar unit next :: lossy rest
      else if isHighSurrogate unit || isLowSurrogate unit then replacement :: lossy (next :: rest)
      else Char.ofNat unit.toNat :: lossy (next :: rest)

/-- The text in UTF-8. -/
def utf8 (text : List Char) : List UInt8 := text.flatMap String.utf8EncodeChar

theorem length_units (bytes : List UInt8) : 2 * (units bytes).length ≤ bytes.length := by
  induction bytes using units.induct with
  | case1 low high rest ih =>
      simp only [units, List.length_cons]
      omega
  | case2 bytes short =>
      match bytes, short with
      | [], _ => simp [units]
      | [_], _ => simp [units]
      | low :: high :: rest, short => exact absurd rfl (short low high rest)

/-- A code unit alone takes three bytes at most. -/
theorem utf8Size_ofNat_le {value : Nat} (small : value < 0x10000) :
    (Char.ofNat value).utf8Size ≤ 3 := by
  have below : (Char.ofNat value).val ≤ 0xFFFF := by
    rw [UInt32.le_iff_toNat_le]
    by_cases isScalar : value.isValidChar
    · rw [Char.ofNat, dif_pos isScalar]
      change value ≤ 0xFFFF
      omega
    · rw [Char.ofNat, dif_neg isScalar]
      decide
  rcases Nat.lt_or_ge 3 (Char.ofNat value).utf8Size with large | fits
  · have four := Char.utf8Size_eq_four_iff.mp
      (Nat.le_antisymm (Char.utf8Size_le_four _) large)
    exact absurd four (UInt32.not_lt.mpr below)
  · exact fits

theorem length_utf8_cons (character : Char) (text : List Char) :
    (utf8 (character :: text)).length = character.utf8Size + (utf8 text).length := by
  simp [utf8]

theorem utf8Size_replacement : replacement.utf8Size = 3 := by decide

theorem length_utf8_lossy_le (text : List UInt16) :
    (utf8 (lossy text)).length ≤ 3 * text.length := by
  fun_induction lossy text with
  | case1 => simp [utf8]
  | case2 unit =>
      have small := utf8Size_ofNat_le unit.toNat_lt
      rw [length_utf8_cons]
      split
      · rw [utf8Size_replacement]
        simp [utf8]
      · simp only [utf8, List.flatMap_nil, List.length_nil, List.length_cons]
        omega
  | case3 unit next rest pair ih =>
      have four := Char.utf8Size_le_four (pairScalar unit next)
      rw [length_utf8_cons]
      simp only [List.length_cons] at ih ⊢
      omega
  | case4 unit next rest _ _ ih =>
      rw [length_utf8_cons, utf8Size_replacement]
      simp only [List.length_cons] at ih ⊢
      omega
  | case5 unit next rest _ _ ih =>
      have small := utf8Size_ofNat_le unit.toNat_lt
      rw [length_utf8_cons]
      simp only [List.length_cons] at ih ⊢
      omega

end Guiying.Foundation.Utf16
