import Guiying.Foundation.Json
import Guiying.Foundation.Utf16
import Mathlib.Algebra.Order.BigOperators.Group.List
import Mathlib.Data.List.TakeWhile

/-!
# Reading JSON

The values of JSON without numbers and booleans, for documents that hold their
numbers as text, with their compact text and a reader. The reader takes white
space wherever JSON does, and every escape of a text.
-/

namespace Guiying.Foundation.Json

open ByteString

inductive Value where
  | null
  | text (value : List UInt8)
  | array (elements : List Value)
  | object (members : List (List UInt8 × Value))

/-- The pieces between an opening and a closing byte, with commas. -/
def enclosed (opening close : UInt8) (pieces : List (List UInt8)) : List UInt8 :=
  opening :: [44].intercalate pieces ++ [close]

def namedText (name value : List UInt8) : List UInt8 := text name ++ [58] ++ value

mutual

def Value.compact : Value → List UInt8
  | .null => Json.null
  | .text value => Json.text value
  | .array elements => enclosed 91 93 (compactElements elements)
  | .object members => enclosed 123 125 (compactMembers members)

def compactElements : List Value → List (List UInt8)
  | [] => []
  | element :: rest => element.compact :: compactElements rest

def compactMembers : List (List UInt8 × Value) → List (List UInt8)
  | [] => []
  | (name, value) :: rest => namedText name value.compact :: compactMembers rest

end

/-! ## The reader -/

def isSpace (byte : UInt8) : Bool := byte = 32 || byte = 9 || byte = 10 || byte = 13

def skipSpace (input : List UInt8) : List UInt8 := input.dropWhile isSpace

def hexValue (byte : UInt8) : Option Nat :=
  if 48 ≤ byte ∧ byte ≤ 57 then some (byte.toNat - 48)
  else if 97 ≤ byte ∧ byte ≤ 102 then some (byte.toNat - 87)
  else if 65 ≤ byte ∧ byte ≤ 70 then some (byte.toNat - 55)
  else none

/-- The code unit of four hexadecimal digits. -/
def readUnit : List UInt8 → Option (UInt16 × List UInt8)
  | first :: second :: third :: fourth :: rest => do
      let first ← hexValue first
      let second ← hexValue second
      let third ← hexValue third
      let fourth ← hexValue fourth
      some (UInt16.ofNat (((first * 16 + second) * 16 + third) * 16 + fourth), rest)
  | _ => none

/-- A code unit alone, or a pair of surrogates. -/
def readScalar (unit : UInt16) (input : List UInt8) : Option (List UInt8 × List UInt8) :=
  if Utf16.isLowSurrogate unit then none
  else if Utf16.isHighSurrogate unit then
    match input with
    | 92 :: 117 :: input => do
        let (low, rest) ← readUnit input
        if Utf16.isLowSurrogate low then
          some (String.utf8EncodeChar (Utf16.pairScalar unit low), rest)
        else none
    | _ => none
  else some (String.utf8EncodeChar (Char.ofNat unit.toNat), input)

def shortEscape (byte : UInt8) : Option UInt8 :=
  if byte = 34 ∨ byte = 92 ∨ byte = 47 then some byte
  else if byte = 98 then some 8
  else if byte = 116 then some 9
  else if byte = 110 then some 10
  else if byte = 102 then some 12
  else if byte = 114 then some 13
  else none

/-- What stands after a backslash. -/
def readEscape : List UInt8 → Option (List UInt8 × List UInt8)
  | [] => none
  | code :: input =>
      if code = 117 then do
        let (unit, rest) ← readUnit input
        readScalar unit rest
      else do
        let byte ← shortEscape code
        some ([byte], input)

/-- The rest of a text, up to its closing quote. -/
def readText : Nat → List UInt8 → Option (List UInt8 × List UInt8)
  | 0, _ => none
  | _ + 1, [] => none
  | fuel + 1, byte :: input =>
      if byte = 34 then some ([], input)
      else if byte = 92 then do
        let (read, input) ← readEscape input
        let (value, rest) ← readText fuel input
        some (read ++ value, rest)
      else if byte < 32 then none
      else do
        let (value, rest) ← readText fuel input
        some (byte :: value, rest)

section Lists

variable {α : Type} (item : List UInt8 → Option (α × List UInt8)) (close : UInt8)

/-- One item or more with commas between them, up to the closing byte. -/
def readSeparated : Nat → List UInt8 → Option (List α × List UInt8)
  | 0, _ => none
  | fuel + 1, input => do
      let (value, rest) ← item input
      match skipSpace rest with
      | [] => none
      | next :: rest =>
          if next = close then some ([value], rest)
          else if next = 44 then do
            let (values, rest) ← readSeparated fuel rest
            some (value :: values, rest)
          else none

def readList (input : List UInt8) : Option (List α × List UInt8) :=
  match skipSpace input with
  | [] => none
  | next :: rest =>
      if next = close then some ([], rest) else readSeparated item close input.length input

end Lists

def readNamed (item : List UInt8 → Option (Value × List UInt8)) (input : List UInt8) :
    Option ((List UInt8 × Value) × List UInt8) :=
  match skipSpace input with
  | 34 :: input => do
      let (name, rest) ← readText input.length input
      match skipSpace rest with
      | 58 :: rest => do
          let (value, rest) ← item rest
          some ((name, value), rest)
      | _ => none
  | _ => none

/-- The fuel bounds how deep values are nested. -/
def readValue : Nat → List UInt8 → Option (Value × List UInt8)
  | 0, _ => none
  | fuel + 1, input =>
      match skipSpace input with
      | 110 :: 117 :: 108 :: 108 :: rest => some (.null, rest)
      | 34 :: rest => do
          let (value, rest) ← readText rest.length rest
          some (.text value, rest)
      | 91 :: rest => do
          let (elements, rest) ← readList (readValue fuel) 93 rest
          some (.array elements, rest)
      | 123 :: rest => do
          let (members, rest) ← readList (readNamed (readValue fuel)) 125 rest
          some (.object members, rest)
      | _ => none

/-- A whole document; white space may follow its value. -/
def read (input : List UInt8) : Option Value := do
  let (value, rest) ← readValue input.length input
  if skipSpace rest = [] then some value else none

/-! ## Texts are read back -/

variable {value rest : List UInt8}

theorem hexValue_hexDigit {nibble : Nat} (small : nibble < 16) :
    hexValue (hexDigit nibble) = some nibble := by
  revert nibble
  decide

theorem readScalar_ascii {scalar : Nat} (small : scalar < 128) (rest : List UInt8) :
    readScalar (UInt16.ofNat scalar) rest = some ([UInt8.ofNat scalar], rest) := by
  have alone : Utf16.isLowSurrogate (UInt16.ofNat scalar) = false ∧
      Utf16.isHighSurrogate (UInt16.ofNat scalar) = false := by
    revert scalar
    decide
  have unit : (UInt16.ofNat scalar).toNat = scalar :=
    UInt16.toNat_ofNat_of_lt (lt_of_lt_of_le small (by decide))
  have encoded : String.utf8EncodeChar (Char.ofNat scalar) = [UInt8.ofNat scalar] := by
    revert scalar
    decide
  unfold readScalar
  rw [alone.1, alone.2, unit, encoded]
  rfl

/-- A control character written as an escape of six bytes. -/
theorem readEscape_control {byte : UInt8} (control : byte < 32) (rest : List UInt8) :
    readEscape (117 :: 48 :: 48 :: hexDigit (byte.toNat / 16) :: hexDigit (byte.toNat % 16) :: rest) =
      some ([byte], rest) := by
  have small : byte.toNat < 32 := control
  have high : byte.toNat / 16 < 16 := by omega
  have low : byte.toNat % 16 < 16 := by omega
  have whole : ((0 * 16 + 0) * 16 + byte.toNat / 16) * 16 + byte.toNat % 16 = byte.toNat := by omega
  have unit : readUnit (48 :: 48 :: hexDigit (byte.toNat / 16) :: hexDigit (byte.toNat % 16) :: rest) =
      some (UInt16.ofNat byte.toNat, rest) := by
    rw [readUnit, hexValue_hexDigit high, hexValue_hexDigit low,
      show hexValue 48 = some 0 by decide]
    simp only [Option.bind_eq_bind, Option.bind_some, whole]
  rw [readEscape, if_pos rfl, unit, Option.bind_eq_bind, Option.bind_some]
  dsimp only
  rw [readScalar_ascii (by omega), UInt8.ofNat_toNat]

/-- One byte of a text is read back as it was. -/
theorem readText_escapeByte (fuel : Nat) (byte : UInt8) (rest : List UInt8) :
    readText (fuel + 1) (escapeByte byte ++ rest) =
      (readText fuel rest).map fun (value, rest) => (byte :: value, rest) := by
  by_cases plain : Plain byte
  · obtain ⟨quote, backslash, printable⟩ := plain
    rw [escapeByte_of_plain ⟨quote, backslash, printable⟩, List.singleton_append, readText,
      if_neg quote, if_neg backslash, if_neg (UInt8.not_lt.mpr printable)]
    cases readText fuel rest <;> rfl
  · have escaped : ∃ escape, escapeByte byte ++ rest = 92 :: escape ∧
        readEscape escape = some ([byte], rest) := by
      unfold escapeByte
      split
      case isTrue same => exact ⟨34 :: rest, rfl, by rw [same]; rfl⟩
      split
      case isTrue same => exact ⟨92 :: rest, rfl, by rw [same]; rfl⟩
      split
      case isTrue same => exact ⟨98 :: rest, rfl, by rw [same]; rfl⟩
      split
      case isTrue same => exact ⟨116 :: rest, rfl, by rw [same]; rfl⟩
      split
      case isTrue same => exact ⟨110 :: rest, rfl, by rw [same]; rfl⟩
      split
      case isTrue same => exact ⟨102 :: rest, rfl, by rw [same]; rfl⟩
      split
      case isTrue same => exact ⟨114 :: rest, rfl, by rw [same]; rfl⟩
      split
      case isTrue control => exact ⟨_, rfl, readEscape_control control rest⟩
      case isFalse quote backslash _ _ _ _ _ printable =>
        exact absurd ⟨quote, backslash, UInt8.not_lt.mp printable⟩ plain
    obtain ⟨escape, written, read⟩ := escaped
    rw [written, readText, if_neg (by decide), if_pos rfl, read, Option.bind_eq_bind,
      Option.bind_some]
    dsimp only
    cases readText fuel rest <;> rfl

theorem readText_text (value : List UInt8) {fuel : Nat} (enough : value.length < fuel)
    (rest : List UInt8) :
    readText fuel (value.flatMap escapeByte ++ 34 :: rest) = some (value, rest) := by
  induction value generalizing fuel with
  | nil =>
      cases fuel with
      | zero => omega
      | succ fuel => rfl
  | cons byte value ih =>
      cases fuel with
      | zero => omega
      | succ fuel =>
          rw [List.length_cons] at enough
          rw [List.flatMap_cons, List.append_assoc, readText_escapeByte,
            ih (Nat.lt_of_succ_lt_succ enough)]
          rfl

/-! ## Values are read back -/

theorem skipSpace_cons {first : UInt8} (dark : isSpace first = false) (rest : List UInt8) :
    skipSpace (first :: rest) = first :: rest := by
  rw [skipSpace, List.dropWhile_cons_of_neg (by rw [dark]; exact Bool.false_ne_true)]

/-- A piece of a list that no reader takes for white space, a comma or the end of the list. -/
def Opens (close : UInt8) (piece : List UInt8) : Prop :=
  ∃ first rest, piece = first :: rest ∧ isSpace first = false ∧ first ≠ close

section Lists

variable {α : Type} {item : List UInt8 → Option (α × List UInt8)} {write : α → List UInt8}
  {close : UInt8}

theorem readSeparated_intercalate (closes : isSpace close = false) (comma : close ≠ 44)
    (first : α) (others : List α)
    (reads : ∀ value ∈ first :: others, ∀ rest, item (write value ++ rest) = some (value, rest))
    {fuel : Nat} (enough : others.length < fuel) (rest : List UInt8) :
    readSeparated item close fuel
      ([44].intercalate ((first :: others).map write) ++ close :: rest) =
        some (first :: others, rest) := by
  induction others generalizing first fuel with
  | nil =>
      cases fuel with
      | zero => omega
      | succ fuel =>
          rw [readSeparated, List.map_singleton, List.intercalate_singleton,
            reads first List.mem_cons_self, Option.bind_eq_bind, Option.bind_some]
          dsimp only
          rw [skipSpace_cons closes]
          dsimp only
          rw [if_pos rfl]
  | cons second others ih =>
      cases fuel with
      | zero => omega
      | succ fuel =>
          have later := ih second
            (fun value inside => reads value (List.mem_cons_of_mem first inside))
            (Nat.lt_of_succ_lt_succ enough)
          have split : [44].intercalate ((first :: second :: others).map write) ++ close :: rest =
              write first ++ 44 :: ([44].intercalate ((second :: others).map write) ++
                close :: rest) := by
            simp [List.intercalate]
          rw [split, readSeparated, reads first List.mem_cons_self, Option.bind_eq_bind,
            Option.bind_some]
          dsimp only
          rw [skipSpace_cons (by decide)]
          dsimp only
          rw [if_neg comma.symm, if_pos rfl, later]
          rfl

theorem length_le_intercalate_comma (first : List UInt8) (others : List (List UInt8)) :
    others.length ≤ ([44].intercalate (first :: others)).length := by
  have commas := List.length_le_sum_of_one_le (others.map fun other => other.length + 1) (by
    intro count member
    obtain ⟨other, _, rfl⟩ := List.mem_map.mp member
    exact Nat.le_add_left 1 other.length)
  rw [List.length_map] at commas
  rw [length_intercalate_comma]
  omega

theorem readList_enclosed (closes : isSpace close = false) (comma : close ≠ 44)
    (values : List α)
    (reads : ∀ value ∈ values, ∀ rest, item (write value ++ rest) = some (value, rest))
    (opens : ∀ value ∈ values, Opens close (write value)) (rest : List UInt8) :
    readList item close ([44].intercalate (values.map write) ++ close :: rest) =
      some (values, rest) := by
  cases values with
  | nil =>
      change readList item close (close :: rest) = _
      rw [readList, skipSpace_cons closes]
      dsimp only
      rw [if_pos rfl]
  | cons first others =>
      obtain ⟨byte, piece, written, dark, other⟩ := opens first List.mem_cons_self
      have opened : ∃ tail, [44].intercalate ((first :: others).map write) ++ close :: rest =
          byte :: tail := by
        cases others with
        | nil =>
            rw [List.map_singleton, List.intercalate_singleton, written]
            exact ⟨_, rfl⟩
        | cons second others =>
            rw [List.map_cons, List.map_cons, List.intercalate_cons_cons, written]
            exact ⟨_, rfl⟩
      have enough : others.length <
          ([44].intercalate ((first :: others).map write) ++ close :: rest).length := by
        have pieces := length_le_intercalate_comma (write first) (others.map write)
        rw [List.length_map] at pieces
        rw [List.map_cons, List.length_append, List.length_cons]
        omega
      have whole := readSeparated_intercalate closes comma first others reads enough rest
      obtain ⟨tail, opened⟩ := opened
      rw [opened] at whole ⊢
      rw [readList, skipSpace_cons dark]
      dsimp only
      rw [if_neg other, whole]

end Lists

theorem compactElements_eq (elements : List Value) :
    compactElements elements = elements.map Value.compact := by
  induction elements with
  | nil => rfl
  | cons element rest ih => rw [compactElements, ih, List.map_cons]

theorem compactMembers_eq (members : List (List UInt8 × Value)) :
    compactMembers members = members.map fun (name, value) => namedText name value.compact := by
  induction members with
  | nil => rfl
  | cons member rest ih => rw [compactMembers, ih, List.map_cons]

theorem opens_text (value : List UInt8) {close : UInt8} (other : close ≠ 34) :
    Opens close (text value) :=
  ⟨34, _, rfl, by decide, other.symm⟩

theorem Value.opens_compact (value : Value) {close : UInt8} (other : close = 93 ∨ close = 125) :
    Opens close value.compact := by
  cases value with
  | null => exact ⟨110, [117, 108, 108], rfl, by decide, by rcases other with rfl | rfl <;> decide⟩
  | text value => exact opens_text value (by rcases other with rfl | rfl <;> decide)
  | array elements =>
      exact ⟨91, _, rfl, by decide, by rcases other with rfl | rfl <;> decide⟩
  | object members =>
      exact ⟨123, _, rfl, by decide, by rcases other with rfl | rfl <;> decide⟩

theorem length_lt_enclosed (opening close : UInt8) {piece : List UInt8}
    {pieces : List (List UInt8)} (inside : piece ∈ pieces) :
    piece.length < (enclosed opening close pieces).length := by
  have within : piece.length ≤ ([44].intercalate pieces).length := by
    induction pieces with
    | nil => exact absurd inside List.not_mem_nil
    | cons first others ih =>
        rw [length_intercalate_comma]
        rcases List.mem_cons.mp inside with rfl | later
        · exact Nat.le_add_right _ _
        · have listed : piece.length + 1 ∈ others.map fun other => other.length + 1 :=
            List.mem_map.mpr ⟨piece, later, rfl⟩
          have one := List.single_le_sum (fun _ _ => Nat.zero_le _) _ listed
          omega
  rw [enclosed, List.length_append, List.length_cons, List.length_singleton]
  omega

theorem length_le_escaped (value : List UInt8) :
    value.length ≤ (value.flatMap escapeByte).length := by
  induction value with
  | nil => exact Nat.le_refl 0
  | cons byte value ih =>
      have one : 1 ≤ (escapeByte byte).length := by
        unfold escapeByte
        repeat' split
        all_goals exact Nat.le_add_left 1 _
      rw [List.flatMap_cons, List.length_append, List.length_cons]
      omega

/-- A text is read back up to its closing quote. -/
theorem readText_closed (value rest : List UInt8) :
    readText (value.flatMap escapeByte ++ 34 :: rest).length
      (value.flatMap escapeByte ++ 34 :: rest) = some (value, rest) := by
  have escaped := length_le_escaped value
  apply readText_text
  rw [List.length_append, List.length_cons]
  omega

/-- A named value of an object is read back when its value is. -/
theorem readNamed_namedText {item : List UInt8 → Option (Value × List UInt8)} {name : List UInt8}
    {value : Value} {rest : List UInt8}
    (reads : item (value.compact ++ rest) = some (value, rest)) :
    readNamed item (namedText name value.compact ++ rest) = some ((name, value), rest) := by
  have written : namedText name value.compact ++ rest =
      34 :: (name.flatMap escapeByte ++ 34 :: 58 :: (value.compact ++ rest)) := by
    simp [namedText, text]
  have quoted (input : List UInt8) : readNamed item (34 :: input) =
      (readText input.length input).bind fun (name, rest) =>
        match skipSpace rest with
        | 58 :: rest => (item rest).bind fun (value, rest) => some ((name, value), rest)
        | _ => none := rfl
  rw [written, quoted, readText_closed, Option.bind_some]
  dsimp only
  rw [skipSpace_cons (by decide)]
  change (item (value.compact ++ rest)).bind _ = _
  rw [reads]
  rfl

/-- A value is read back from its compact text, whatever follows. -/
theorem readValue_compact (fuel : Nat) (value : Value) (enough : value.compact.length ≤ fuel)
    (rest : List UInt8) : readValue fuel (value.compact ++ rest) = some (value, rest) := by
  induction fuel generalizing value rest with
  | zero =>
      obtain ⟨first, piece, written, _⟩ := value.opens_compact (.inl rfl)
      rw [written, List.length_cons] at enough
      omega
  | succ fuel ih =>
      cases value with
      | null => rfl
      | text value =>
          have written : (Value.text value).compact ++ rest =
              34 :: (value.flatMap escapeByte ++ 34 :: rest) := by
            simp [Value.compact, text]
          rw [written]
          change (readText _ _).bind _ = _
          rw [readText_closed]
          rfl
      | array elements =>
          rw [Value.compact, compactElements_eq] at enough ⊢
          have reads : ∀ element ∈ elements, ∀ rest,
              readValue fuel (element.compact ++ rest) = some (element, rest) := by
            intro element inside rest
            have shorter := length_lt_enclosed 91 93
              (List.mem_map_of_mem (f := Value.compact) inside)
            exact ih element (by omega) rest
          have whole := readList_enclosed (by decide) (by decide) elements reads
            (fun element _ => element.opens_compact (.inl rfl)) rest
          have written : enclosed 91 93 (elements.map Value.compact) ++ rest =
              91 :: ([44].intercalate (elements.map Value.compact) ++ 93 :: rest) := by
            simp [enclosed]
          rw [written]
          change (readList (readValue fuel) 93 _).bind _ = _
          rw [whole]
          rfl
      | object members =>
          have named : compactMembers members =
              members.map fun member => namedText member.1 member.2.compact :=
            compactMembers_eq members
          rw [Value.compact, named] at enough ⊢
          have reads : ∀ member ∈ members, ∀ rest,
              readNamed (readValue fuel) (namedText member.1 member.2.compact ++ rest) =
                some (member, rest) := by
            intro member inside rest
            have listed : namedText member.1 member.2.compact ∈
                members.map fun member => namedText member.1 member.2.compact :=
              List.mem_map.mpr ⟨member, inside, rfl⟩
            have shorter := length_lt_enclosed 123 125 listed
            have within : member.2.compact.length ≤
                (namedText member.1 member.2.compact).length := by
              rw [namedText, List.length_append]
              omega
            exact readNamed_namedText (ih member.2 (by omega) rest)
          have opens : ∀ member ∈ members,
              Opens 125 (namedText member.1 member.2.compact) :=
            fun member _ => ⟨34, _, rfl, by decide, by decide⟩
          have whole := readList_enclosed (by decide) (by decide) members reads opens rest
          have written : enclosed 123 125
              (members.map fun member => namedText member.1 member.2.compact) ++ rest =
              123 :: ([44].intercalate
                (members.map fun member => namedText member.1 member.2.compact) ++ 125 :: rest) := by
            simp [enclosed]
          rw [written]
          change (readList (readNamed (readValue fuel)) 125 _).bind _ = _
          rw [whole]
          rfl

/-- A document is read back from the compact text of its value. -/
theorem read_compact (value : Value) {space : List UInt8} (blank : ∀ byte ∈ space, isSpace byte) :
    read (value.compact ++ space) = some value := by
  have enough : value.compact.length ≤ (value.compact ++ space).length := by
    rw [List.length_append]
    exact Nat.le_add_right _ _
  have nothing : skipSpace space = [] := List.dropWhile_eq_nil_iff.mpr blank
  rw [read, readValue_compact _ value enough, Option.bind_eq_bind, Option.bind_some]
  dsimp only
  rw [if_pos nothing]

theorem read_compact_self (value : Value) : read value.compact = some value := by
  have whole := read_compact value fun byte (inside : byte ∈ []) => absurd inside List.not_mem_nil
  rwa [List.append_nil] at whole

theorem Value.compact_injective : Function.Injective Value.compact := by
  intro value other same
  have read := read_compact_self value
  rw [same, read_compact_self other] at read
  exact (Option.some.inj read).symm

/-! ## Texts that are JSON -/

/-- A text of bytes that need no escape stands between its quotes as it is. -/
theorem text_of_plain (plain : ∀ byte ∈ value, Plain byte) : text value = 34 :: value ++ [34] := by
  have same : value.flatMap escapeByte = value := by
    induction value with
    | nil => rfl
    | cons byte rest ih =>
        rw [List.flatMap_cons, escapeByte_of_plain (plain byte List.mem_cons_self),
          ih fun other inside => plain other (List.mem_cons_of_mem _ inside), List.singleton_append]
  rw [text, same]

/-- A text that some value is written as. -/
def IsCompact (text : List UInt8) : Prop := ∃ value : Value, value.compact = text

/-- The value a compact text is read as. -/
def valueOf (text : List UInt8) : Value := (read text).getD .null

theorem compact_valueOf {text : List UInt8} (compact : IsCompact text) :
    (valueOf text).compact = text := by
  obtain ⟨value, rfl⟩ := compact
  rw [valueOf, read_compact_self]
  rfl

@[simp] theorem isCompact_null : IsCompact Json.null := ⟨.null, rfl⟩

@[simp] theorem isCompact_text (value : List UInt8) : IsCompact (text value) := ⟨.text value, rfl⟩

theorem text_injective : Function.Injective text := by
  intro value other same
  have values : (Value.text value).compact = (Value.text other).compact := same
  exact Value.text.inj (Value.compact_injective values)

section Optional

variable {α : Type} {write : α → List UInt8}

theorem isCompact_optional (compact : ∀ value, IsCompact (write value)) (value : Option α) :
    IsCompact (optional (value.map write)) := by
  cases value with
  | none => exact isCompact_null
  | some value => exact compact value

/-- An optional value is determined by its text when no value is written as `null`. -/
theorem optional_injective (injective : Function.Injective write)
    (present : ∀ value, write value ≠ Json.null) :
    Function.Injective fun value : Option α => optional (value.map write) := by
  intro value other same
  cases value with
  | none =>
      cases other with
      | none => rfl
      | some other => exact absurd same.symm (present other)
  | some value =>
      cases other with
      | none => exact absurd same (present value)
      | some other => exact congrArg some (injective same)

theorem text_ne_null (value : List UInt8) : text value ≠ Json.null := by
  intro same
  exact absurd (List.cons.inj same).1 (by decide)

theorem object_ne_null (members : List (String × List UInt8)) : object members ≠ Json.null := by
  intro same
  exact absurd (List.cons.inj same).1 (by decide)

end Optional

section Objects

variable {members others : List (String × List UInt8)}

/-- The members of an object as they are read. -/
def objectValue (members : List (String × List UInt8)) : Value :=
  .object (members.map fun member => (asciiBytes member.1, valueOf member.2))

theorem compact_objectValue (compact : ∀ member ∈ members, IsCompact member.2) :
    (objectValue members).compact = object members := by
  have written : (members.map fun pair => (asciiBytes pair.1, valueOf pair.2)).map
      (fun member => namedText member.1 member.2.compact) =
        members.map fun pair => member pair.1 pair.2 := by
    rw [List.map_map]
    refine List.map_congr_left fun pair inside => ?_
    change namedText (asciiBytes pair.1) (valueOf pair.2).compact = _
    rw [compact_valueOf (compact pair inside)]
    rfl
  rw [objectValue, Value.compact, compactMembers_eq]
  exact congrArg (enclosed 123 125) written

theorem isCompact_object (compact : ∀ member ∈ members, IsCompact member.2) :
    IsCompact (object members) :=
  ⟨objectValue members, compact_objectValue compact⟩

/-- Two objects written alike have the same members, in the same order. -/
theorem object_inj (compact : ∀ member ∈ members, IsCompact member.2)
    (compactOthers : ∀ member ∈ others, IsCompact member.2) (same : object members = object others) :
    members.map (fun member => (asciiBytes member.1, member.2)) =
      others.map fun member => (asciiBytes member.1, member.2) := by
  rw [← compact_objectValue compact, ← compact_objectValue compactOthers] at same
  have values := Value.object.inj (Value.compact_injective same)
  have texts := congrArg (List.map fun member => (member.1, member.2.compact)) values
  rw [List.map_map, List.map_map] at texts
  have each {members : List (String × List UInt8)}
      (compact : ∀ member ∈ members, IsCompact member.2) :
      members.map ((fun member => (member.1, member.2.compact)) ∘
        fun member => (asciiBytes member.1, valueOf member.2)) =
          members.map fun member => (asciiBytes member.1, member.2) := by
    refine List.map_congr_left fun member inside => ?_
    change (asciiBytes member.1, (valueOf member.2).compact) = _
    rw [compact_valueOf (compact member inside)]
  rwa [each compact, each compactOthers] at texts

end Objects

@[simp] theorem isCompact_tagged (tagName tag contentName : String) {content : List UInt8}
    (compact : IsCompact content) : IsCompact (tagged tagName tag contentName content) := by
  apply isCompact_object
  simp only [List.forall_mem_cons, List.not_mem_nil, false_implies, implies_true, and_true]
  exact ⟨isCompact_text _, compact⟩

@[simp] theorem isCompact_bare (tagName tag : String) : IsCompact (bare tagName tag) := by
  apply isCompact_object
  simp only [List.forall_mem_cons, List.not_mem_nil, false_implies, implies_true, and_true]
  exact isCompact_text _

end Guiying.Foundation.Json
