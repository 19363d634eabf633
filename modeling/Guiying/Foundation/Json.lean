import Guiying.Foundation.ByteString

/-!
# Compact JSON text

JSON without white space, as UTF-8 bytes. A text is written between quotes with
its quotes, backslashes and control characters escaped, an object as its members
in the order they are given.
-/

namespace Guiying.Foundation.Json

open ByteString

/-- One digit of an escape in lower case. -/
def hexDigit (nibble : Nat) : UInt8 :=
  UInt8.ofNat (if nibble < 10 then 48 + nibble else 87 + nibble)

/-- One byte of a text: two bytes for a quote, a backslash or a short escape, six for another
control character, the byte itself otherwise. -/
def escapeByte (byte : UInt8) : List UInt8 :=
  if byte = 34 then asciiBytes "\\\""
  else if byte = 92 then asciiBytes "\\\\"
  else if byte = 8 then asciiBytes "\\b"
  else if byte = 9 then asciiBytes "\\t"
  else if byte = 10 then asciiBytes "\\n"
  else if byte = 12 then asciiBytes "\\f"
  else if byte = 13 then asciiBytes "\\r"
  else if byte < 32 then
    asciiBytes "\\u00" ++ [hexDigit (byte.toNat / 16), hexDigit (byte.toNat % 16)]
  else [byte]

def text (value : List UInt8) : List UInt8 := 34 :: value.flatMap escapeByte ++ [34]

def null : List UInt8 := asciiBytes "null"

def optional (value : Option (List UInt8)) : List UInt8 := value.getD null

def member (name : String) (value : List UInt8) : List UInt8 :=
  text (asciiBytes name) ++ [58] ++ value

/-- The members between braces, with commas. -/
def object (members : List (String × List UInt8)) : List UInt8 :=
  123 :: [44].intercalate (members.map fun (name, value) => member name value) ++ [125]

/-- An enumeration value as an object of its tag and its content. -/
def tagged (tagName tag contentName : String) (content : List UInt8) : List UInt8 :=
  object [(tagName, text (asciiBytes tag)), (contentName, content)]

/-- An enumeration value without content. -/
def bare (tagName tag : String) : List UInt8 := object [(tagName, text (asciiBytes tag))]

/-! ## Sizes -/

variable {value : List UInt8}

/-- A byte that is written as it is. -/
def Plain (byte : UInt8) : Prop := byte ≠ 34 ∧ byte ≠ 92 ∧ 32 ≤ byte

instance (byte : UInt8) : Decidable (Plain byte) :=
  inferInstanceAs (Decidable (byte ≠ 34 ∧ byte ≠ 92 ∧ 32 ≤ byte))

theorem escapeByte_of_plain {byte : UInt8} (plain : Plain byte) : escapeByte byte = [byte] := by
  obtain ⟨quote, backslash, printable⟩ := plain
  have above : 32 ≤ byte.toNat := printable
  have other (control : UInt8) (low : control.toNat < 32) : byte ≠ control := by
    rintro rfl
    omega
  unfold escapeByte
  rw [if_neg quote, if_neg backslash, if_neg (other 8 (by decide)), if_neg (other 9 (by decide)),
    if_neg (other 10 (by decide)), if_neg (other 12 (by decide)), if_neg (other 13 (by decide)),
    if_neg (UInt8.not_lt.mpr printable)]

theorem length_escapeByte_le (byte : UInt8) : (escapeByte byte).length ≤ 6 := by
  unfold escapeByte
  repeat' split
  all_goals simp [asciiBytes]

/-- The worst escape is six bytes for one. -/
theorem length_text_le (value : List UInt8) : (text value).length ≤ 6 * value.length + 2 := by
  have escaped : (value.flatMap escapeByte).length ≤ 6 * value.length := by
    induction value with
    | nil => exact Nat.le_refl 0
    | cons byte rest ih =>
        have own := length_escapeByte_le byte
        rw [List.flatMap_cons, List.length_append, List.length_cons]
        omega
  rw [text, List.length_append, List.length_cons, List.length_singleton]
  omega

theorem length_text_of_plain (plain : ∀ byte ∈ value, Plain byte) :
    (text value).length = value.length + 2 := by
  have same : value.flatMap escapeByte = value := by
    induction value with
    | nil => rfl
    | cons byte rest ih =>
        rw [List.flatMap_cons, escapeByte_of_plain (plain byte List.mem_cons_self),
          ih fun other inside => plain other (List.mem_cons_of_mem _ inside), List.singleton_append]
  rw [text, same, List.length_append, List.length_cons, List.length_singleton]

/-- The bytes of the names of an object. -/
def namesSize (names : List String) : Nat :=
  (names.map fun name => (text (asciiBytes name)).length).sum

theorem length_intercalate_comma (first : List UInt8) (others : List (List UInt8)) :
    ([44].intercalate (first :: others)).length =
      first.length + (others.map fun other => other.length + 1).sum := by
  induction others generalizing first with
  | nil => simp [List.intercalate]
  | cons second others ih =>
      have next := ih second
      rw [List.intercalate, List.intersperse_cons_cons, List.flatten_cons, List.flatten_cons,
        List.length_append, List.length_append, ← List.intercalate, next, List.map_cons,
        List.sum_cons, List.length_singleton]
      omega

/-- Each member has a colon and the brace or comma before it, and one brace ends the object. -/
theorem length_object {members : List (String × List UInt8)} (some_ : members ≠ []) :
    (object members).length =
      1 + namesSize (members.map Prod.fst) + (members.map fun pair => pair.2.length + 2).sum := by
  have parts : (members.map fun pair => (member pair.1 pair.2).length + 1).sum =
      namesSize (members.map Prod.fst) + (members.map fun pair => pair.2.length + 2).sum := by
    unfold namesSize
    rw [List.map_map, ← List.sum_map_add]
    congr 2
    funext pair
    simp only [member, Function.comp_apply, List.length_append, List.length_singleton]
    omega
  cases members with
  | nil => exact absurd rfl some_
  | cons first others =>
      rw [List.map_cons, List.sum_cons] at parts
      unfold object
      rw [List.map_cons, List.length_append, List.length_cons, length_intercalate_comma,
        List.map_map, List.length_singleton]
      simp only [Function.comp_def]
      omega

/-- An object is no longer than bounds on its members allow. -/
theorem length_object_le {members : List (String × List UInt8)} {bounds : List Nat}
    (bounded : List.Forall₂ (fun member bound => member.2.length ≤ bound) members bounds) :
    (object members).length ≤
      2 + namesSize (members.map Prod.fst) + (bounds.map fun bound => bound + 2).sum := by
  have values : (members.map fun member => member.2.length + 2).sum ≤
      (bounds.map fun bound => bound + 2).sum := by
    induction bounded with
    | nil => exact Nat.le_refl 0
    | cons small _ ih =>
        rw [List.map_cons, List.map_cons, List.sum_cons, List.sum_cons]
        omega
  cases members with
  | nil =>
      change 2 ≤ _
      omega
  | cons first others =>
      rw [length_object (List.cons_ne_nil first others)]
      omega

end Guiying.Foundation.Json
