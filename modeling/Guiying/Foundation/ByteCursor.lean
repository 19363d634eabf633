import Guiying.Foundation.ByteString
import Guiying.Foundation.Outcome

/-!
# Reading a byte string from the front

A cursor is the bytes that remain. Each read takes a counted prefix or fails with
the reader's one error; a read of what was written first returns it.
-/

namespace Guiying.Foundation.ByteCursor

open Guiying.Foundation.ByteString

universe u

variable {ε : Type u} (short : ε)

/-- The next `count` bytes, and the bytes after them. -/
def take (count : Nat) (remaining : List UInt8) : Except ε (List UInt8 × List UInt8) :=
  if count > remaining.length then .error short
  else .ok (remaining.take count, remaining.drop count)

def readLe (width : Nat) (remaining : List UInt8) : Except ε (Nat × List UInt8) := do
  let (field, rest) ← take short width remaining
  .ok (readLittleEndian field, rest)

theorem take_append {count : Nat} {front : List UInt8} (same : front.length = count)
    (rest : List UInt8) : take short count (front ++ rest) = .ok (front, rest) := by
  subst same
  unfold take
  rw [if_neg (by simp), List.take_left' rfl, List.drop_left' rfl]

theorem readLe_append {width value : Nat} (fits : value < 256 ^ width) (rest : List UInt8) :
    readLe short width (leBytes width value ++ rest) = .ok (value, rest) := by
  unfold readLe
  rw [take_append short (length_leBytes width value)]
  exact congrArg (fun field => Except.ok (field, rest)) (readLittleEndian_leBytes fits)

end Guiying.Foundation.ByteCursor
