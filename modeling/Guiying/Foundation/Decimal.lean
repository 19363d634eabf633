import Guiying.Foundation.MachineInt

/-!
# Canonical decimal text

Text is a list of characters. `text` writes a signed integer without leading
zeros, `parseI128` reads one back, and both agree on every value of the type.
-/

namespace Guiying.Foundation.Decimal

open Guiying.Foundation.MachineInt

/-- The decimal text of a signed integer. -/
def text : Int → List Char
  | .ofNat value => Nat.toDigits 10 value
  | .negSucc value => '-' :: Nat.toDigits 10 (value + 1)

def isWhitespace (character : Char) : Bool :=
  character.toNat ∈ [9, 10, 11, 12, 13, 32, 0x85, 0xA0, 0x1680, 0x2028, 0x2029, 0x202F, 0x205F,
    0x3000] || (0x2000 ≤ character.toNat && character.toNat ≤ 0x200A)

/-- Whether trimming white space leaves the text as it is. -/
def trimmed (value : List Char) : Bool :=
  !value.head?.any isWhitespace && !value.getLast?.any isWhitespace

/-- The length of the text in UTF-8. -/
def byteLength (value : List Char) : Nat :=
  value.foldr (fun character length => character.utf8Size + length) 0

def stripMinus : List Char → List Char
  | '-' :: rest => rest
  | value => value

def stripSign : List Char → List Char
  | '-' :: rest => rest
  | '+' :: rest => rest
  | value => value

/-- A sign or none, then digits; `none` also outside the range of the type. -/
def parseI128 (value : List Char) : Option Int :=
  let digits := stripSign value
  let magnitude := Nat.ofDigitChars 10 digits 0
  if digits = [] ∨ ¬ digits.all Char.isDigit then none
  else checkedI128 (if value.head? = some '-' then -(magnitude : Int) else magnitude)

/-- No sign but a minus, no leading zero and no minus zero. -/
def canonicalDigits (value : List Char) : Bool :=
  let digits := stripMinus value
  !digits.isEmpty && digits.all Char.isDigit &&
    !(decide (digits.length > 1) && decide (digits.head? = some '0')) && value ≠ ['-', '0']

/-! ## The digits of a number -/

variable {value : Nat} {character : Char}

theorem isDigit_of_mem (member : character ∈ Nat.toDigits 10 value) : character.isDigit = true :=
  Nat.isDigit_of_mem_toDigits (by decide) (by decide) member

theorem all_isDigit (value : Nat) : (Nat.toDigits 10 value).all Char.isDigit = true :=
  List.all_eq_true.mpr fun _ member => isDigit_of_mem member

theorem ne_of_isDigit {other : Char} (digit : character.isDigit = true)
    (nondigit : other.isDigit = false) : character ≠ other := by
  rintro rfl
  rw [digit] at nondigit
  cases nondigit

theorem exists_toDigits (value : Nat) : ∃ first rest, Nat.toDigits 10 value = first :: rest ∧
    first.isDigit = true := by
  cases digits : Nat.toDigits 10 value with
  | nil => exact absurd digits Nat.toDigits_ne_nil
  | cons first rest =>
      have member : first ∈ Nat.toDigits 10 value := by
        rw [digits]
        exact List.mem_cons_self
      exact ⟨first, rest, rfl, isDigit_of_mem member⟩

theorem digitChar_ne_zero {digit : Nat} (positive : 0 < digit) (small : digit < 10) :
    digit.digitChar ≠ '0' := by
  have all : ∀ digit : Fin 10, 0 < digit.val → digit.val.digitChar ≠ '0' := by decide
  exact all ⟨digit, small⟩ positive

/-- A number of more than one digit does not start with a zero. -/
theorem head_toDigits (value : Nat) (long : 1 < (Nat.toDigits 10 value).length) :
    (Nat.toDigits 10 value).head? ≠ some '0' := by
  induction value using Nat.strongRecOn with
  | ind value ih =>
      by_cases small : value < 10
      · rw [Nat.toDigits_of_lt_base small] at long
        exact absurd long (by simp)
      · have large : 10 ≤ value := by omega
        rw [Nat.toDigits_of_base_le (by decide) large]
        obtain ⟨first, rest, digits, _⟩ := exists_toDigits (value / 10)
        rw [digits, List.cons_append, List.head?_cons]
        by_cases short : value / 10 < 10
        · rw [Nat.toDigits_of_lt_base short] at digits
          cases digits
          intro zero
          exact digitChar_ne_zero (by omega) short (Option.some.inj zero)
        · have again := ih (value / 10) (by omega) (by
            have := (Nat.length_toDigits_le_iff (n := value / 10) (k := 1) (b := 10) (by decide)
              (by decide)).not.mpr (by omega)
            omega)
          rw [digits] at again
          exact again

/-! ## The text of an integer -/

variable {integer : Int}

theorem text_eq (integer : Int) : text integer =
    (if integer < 0 then ['-'] else []) ++ Nat.toDigits 10 integer.natAbs := by
  cases integer with
  | ofNat value => rfl
  | negSucc value =>
      have negative : Int.negSucc value < 0 := Int.negSucc_lt_zero value
      rw [if_pos negative]
      rfl

theorem stripMinus_text (integer : Int) :
    stripMinus (text integer) = Nat.toDigits 10 integer.natAbs := by
  rw [text_eq]
  split
  · rfl
  · obtain ⟨first, rest, digits, digit⟩ := exists_toDigits integer.natAbs
    have plain : first ≠ '-' := ne_of_isDigit digit (by decide)
    rw [List.nil_append, digits]
    unfold stripMinus
    split
    · rename_i same
      cases same
      exact absurd rfl plain
    · rfl

theorem stripSign_text (integer : Int) :
    stripSign (text integer) = Nat.toDigits 10 integer.natAbs := by
  rw [text_eq]
  split
  · rfl
  · obtain ⟨first, rest, digits, digit⟩ := exists_toDigits integer.natAbs
    have minus : first ≠ '-' := ne_of_isDigit digit (by decide)
    have plus : first ≠ '+' := ne_of_isDigit digit (by decide)
    rw [List.nil_append, digits]
    unfold stripSign
    split
    · rename_i same
      cases same
      exact absurd rfl minus
    · rename_i same
      cases same
      exact absurd rfl plus
    · rfl

theorem head_text (integer : Int) : (text integer).head? = some '-' ↔ integer < 0 := by
  rw [text_eq]
  split
  · rename_i negative
    exact ⟨fun _ => negative, fun _ => rfl⟩
  · rename_i negative
    obtain ⟨first, rest, digits, digit⟩ := exists_toDigits integer.natAbs
    rw [List.nil_append, digits, List.head?_cons]
    constructor
    · intro same
      exact absurd (Option.some.inj same) (ne_of_isDigit digit (by decide))
    · intro below
      exact absurd below negative

theorem parseI128_text (integer : Int) : parseI128 (text integer) = checkedI128 integer := by
  unfold parseI128
  dsimp only
  rw [stripSign_text]
  have digits : ¬ (Nat.toDigits 10 integer.natAbs = [] ∨
      ¬ (Nat.toDigits 10 integer.natAbs).all Char.isDigit = true) := by
    rintro (empty | nondigit)
    · exact Nat.toDigits_ne_nil empty
    · exact nondigit (all_isDigit _)
  rw [if_neg digits, Nat.ofDigitChars_ten_toDigits]
  congr 1
  split
  · rename_i minus
    have negative := (head_text integer).mp minus
    omega
  · rename_i minus
    have nonnegative := mt (head_text integer).mpr minus
    omega

theorem text_injective : Function.Injective text := by
  intro left right same
  have digits := congrArg stripSign same
  rw [stripSign_text, stripSign_text] at digits
  have read := congrArg (Nat.ofDigitChars 10 · 0) digits
  have size : left.natAbs = right.natAbs := by
    simpa only [Nat.ofDigitChars_ten_toDigits] using read
  have sign : left < 0 ↔ right < 0 := by rw [← head_text, same, head_text]
  omega

/-- Every character of the text is a digit or a minus sign. -/
theorem mem_text {character : Char} (member : character ∈ text integer) :
    character.isDigit = true ∨ character = '-' := by
  rw [text_eq] at member
  rcases List.mem_append.mp member with sign | digit
  · split at sign
    · exact .inr (List.mem_singleton.mp sign)
    · cases sign
  · exact .inl (isDigit_of_mem digit)

theorem toNat_of_isDigit {character : Char} (digit : character.isDigit = true) :
    48 ≤ character.toNat ∧ character.toNat ≤ 57 := by
  simp only [Char.isDigit, Bool.and_eq_true, decide_eq_true_eq] at digit
  exact digit

theorem plain_of_mem_text {character : Char} (member : character ∈ text integer) :
    isWhitespace character = false ∧ character.utf8Size = 1 := by
  have range : 45 ≤ character.toNat ∧ character.toNat ≤ 57 := by
    rcases mem_text member with digit | rfl
    · have bounds := toNat_of_isDigit digit
      omega
    · decide
  constructor
  · simp only [isWhitespace, List.mem_cons, List.not_mem_nil, or_false, Bool.or_eq_false_iff,
      decide_eq_false_iff_not, Bool.and_eq_false_iff]
    omega
  · have small : character.val ≤ 0x7F := by
      have le : character.toNat ≤ 127 := by omega
      exact le
    exact if_pos small

theorem trimmed_text (integer : Int) : trimmed (text integer) = true := by
  have first : (text integer).head?.any isWhitespace = false := by
    cases found : (text integer).head? with
    | none => rfl
    | some character => exact (plain_of_mem_text (List.mem_of_mem_head? found)).1
  have last : (text integer).getLast?.any isWhitespace = false := by
    cases found : (text integer).getLast? with
    | none => rfl
    | some character => exact (plain_of_mem_text (List.mem_of_mem_getLast? found)).1
  unfold trimmed
  rw [first, last]
  rfl

/-- A text of characters of one byte each has as many bytes as characters. -/
theorem byteLength_eq_length {value : List Char}
    (ones : ∀ character ∈ value, character.utf8Size = 1) : byteLength value = value.length := by
  induction value with
  | nil => rfl
  | cons character rest ih =>
      have own := ones character List.mem_cons_self
      have others := ih fun other inside => ones other (List.mem_cons_of_mem _ inside)
      unfold byteLength at others ⊢
      rw [List.foldr_cons, others, own, List.length_cons, Nat.add_comm]

theorem byteLength_text (integer : Int) : byteLength (text integer) = (text integer).length :=
  byteLength_eq_length fun _ inside => (plain_of_mem_text inside).2

/-- The text of a 128-bit integer has at most forty bytes. -/
theorem byteLength_text_le (inside : checkedI128 integer = some integer) :
    byteLength (text integer) ≤ 40 := by
  obtain ⟨⟨low, high⟩, -⟩ := checkedI128_eq_some.mp inside
  have digits : (Nat.toDigits 10 integer.natAbs).length ≤ 39 := by
    rw [Nat.length_toDigits_le_iff (by decide) (by decide)]
    unfold i128Min at low
    unfold i128Max at high
    omega
  rw [byteLength_text, text_eq, List.length_append]
  split
  · simp only [List.length_cons, List.length_nil]
    omega
  · simp only [List.length_nil]
    omega

theorem canonicalDigits_text (integer : Int) : canonicalDigits (text integer) = true := by
  have zero : text integer ≠ ['-', '0'] := by
    rw [text_eq]
    split
    · intro same
      have digits : Nat.toDigits 10 integer.natAbs = ['0'] := (List.cons.inj same).2
      have value := Nat.ofDigitChars_ten_toDigits (n := integer.natAbs)
      rw [digits] at value
      have absolute : integer.natAbs = 0 := value.symm
      omega
    · intro same
      obtain ⟨first, rest, digits, digit⟩ := exists_toDigits integer.natAbs
      rw [List.nil_append, digits] at same
      cases same
      exact absurd digit (by decide)
  have leading : ¬ ((Nat.toDigits 10 integer.natAbs).length > 1 ∧
      (Nat.toDigits 10 integer.natAbs).head? = some '0') :=
    fun both => head_toDigits _ both.1 both.2
  unfold canonicalDigits
  dsimp only
  rw [stripMinus_text, all_isDigit]
  have some_ : (Nat.toDigits 10 integer.natAbs).isEmpty = false := by
    rw [List.isEmpty_eq_false_iff]
    exact Nat.toDigits_ne_nil
  rw [some_, ← Bool.decide_and, decide_eq_false leading]
  simpa using zero

end Guiying.Foundation.Decimal
