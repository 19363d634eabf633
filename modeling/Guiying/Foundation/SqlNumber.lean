import Mathlib.Data.List.TakeWhile
import Guiying.Foundation.Decimal

/-!
# Numbers of an SQL engine

A number is an integer of 64 bits or a double. Arithmetic on two integers is
exact while its result fits, and is done on doubles when it does not. Whole
numbers stay whole, so a double is an integer here as well.
-/

namespace Guiying.Foundation

open MachineInt

/-! ## Doubles -/

/-- The nearest natural number of at most 53 significant bits, ties to even. -/
def nearestNat (value : Nat) : Nat :=
  let unit := 2 ^ (value.log2 - 52)
  let quotient := value / unit
  let remainder := value % unit
  (if unit < 2 * remainder ∨ 2 * remainder = unit ∧ quotient % 2 = 1 then quotient + 1
    else quotient) * unit

/-- The double that is nearest to a whole number. -/
def nearestDouble (value : Int) : Int :=
  if value < 0 then -(nearestNat value.natAbs : Int) else nearestNat value.natAbs

theorem nearestNat_of_lt {value : Nat} (small : value < 2 ^ 53) : nearestNat value = value := by
  have bits : value.log2 - 52 = 0 := by
    by_cases zero : value = 0
    · rw [zero]
      rfl
    · have := (Nat.log2_lt zero).mpr small
      omega
  unfold nearestNat
  dsimp only
  rw [bits, pow_zero, Nat.div_one, Nat.mod_one, if_neg (by omega), Nat.mul_one]

theorem le_two_mul_nearestNat (value : Nat) : value ≤ 2 * nearestNat value := by
  by_cases zero : value = 0
  · rw [zero]
    exact Nat.zero_le _
  · have unit : 2 ^ (value.log2 - 52) ≤ value :=
      (Nat.pow_le_pow_right (by decide) (Nat.sub_le _ _)).trans (Nat.log2_self_le zero)
    have split := Nat.div_add_mod value (2 ^ (value.log2 - 52))
    have below := Nat.mod_lt value (Nat.two_pow_pos (value.log2 - 52))
    have whole : 1 * 2 ^ (value.log2 - 52) ≤
        value / 2 ^ (value.log2 - 52) * 2 ^ (value.log2 - 52) :=
      Nat.mul_le_mul_right _ ((Nat.one_le_div_iff (Nat.two_pow_pos _)).mpr unit)
    have kept : value / 2 ^ (value.log2 - 52) * 2 ^ (value.log2 - 52) ≤ nearestNat value := by
      unfold nearestNat
      apply Nat.mul_le_mul_right
      split
      · exact Nat.le_succ _
      · exact Nat.le_refl _
    rw [Nat.mul_comm] at split
    omega

theorem nearestDouble_of_lt {value : Int} (small : value.natAbs < 2 ^ 53) :
    nearestDouble value = value := by
  unfold nearestDouble
  rw [nearestNat_of_lt small]
  split <;> omega

/-- Rounding at most halves a magnitude. -/
theorem natAbs_le_two_mul_nearestDouble (value : Int) :
    value.natAbs ≤ 2 * (nearestDouble value).natAbs := by
  have half := le_two_mul_nearestNat value.natAbs
  unfold nearestDouble
  split <;> omega

/-! ## Numbers -/

/-- Whether an integer fits the 64 bits. -/
def FitsI64 (value : Int) : Prop := i64Min ≤ value ∧ value ≤ i64Max

instance (value : Int) : Decidable (FitsI64 value) := inferInstanceAs (Decidable (_ ∧ _))

inductive SqlNumber where
  | integer (value : Int)
  | real (value : Int)
  deriving DecidableEq, Repr

namespace SqlNumber

/-- What comparisons look at: integers and doubles are compared exactly. -/
def value : SqlNumber → Int
  | integer value => value
  | real value => value

def toDouble : SqlNumber → Int
  | integer value => nearestDouble value
  | real value => value

/-- An operation on two integers if its result fits, and on doubles otherwise. -/
def arithmetic (operation : Int → Int → Int) (left right : SqlNumber) : SqlNumber :=
  match left, right with
  | integer first, integer second =>
      if FitsI64 (operation first second) then integer (operation first second)
      else real (nearestDouble (operation (nearestDouble first) (nearestDouble second)))
  | left, right => real (nearestDouble (operation left.toDouble right.toDouble))

def add : SqlNumber → SqlNumber → SqlNumber := arithmetic (· + ·)

def sub : SqlNumber → SqlNumber → SqlNumber := arithmetic (· - ·)

def mul : SqlNumber → SqlNumber → SqlNumber := arithmetic (· * ·)

/-- `abs`: the least integer has no absolute value, which is an error of the statement. -/
def abs : SqlNumber → Option SqlNumber
  | integer value => if value = i64Min then none else some (integer value.natAbs)
  | real value => some (real value.natAbs)

@[simp] theorem value_integer (number : Int) : (integer number).value = number := rfl

theorem arithmetic_of_fits {operation : Int → Int → Int} {left right : Int}
    (fits : FitsI64 (operation left right)) :
    arithmetic operation (integer left) (integer right) = integer (operation left right) :=
  if_pos fits

theorem arithmetic_of_not_fits {operation : Int → Int → Int} {left right : Int}
    (beyond : ¬ FitsI64 (operation left right)) :
    arithmetic operation (integer left) (integer right) =
      real (nearestDouble (operation (nearestDouble left) (nearestDouble right))) :=
  if_neg beyond

theorem arithmetic_real {operation : Int → Int → Int} {left right : Int} :
    arithmetic operation (real left) (integer right) =
      real (nearestDouble (operation left (nearestDouble right))) := rfl

theorem abs_integer {value : Int} (inside : value ≠ i64Min) :
    abs (integer value) = some (integer value.natAbs) :=
  if_neg inside

theorem abs_least : abs (integer i64Min) = none := rfl

/-- A difference that does not fit is still far from zero. -/
theorem sub_of_not_fits {left right : Int} (small : left.natAbs < 2 ^ 53)
    (beyond : ¬ FitsI64 (left - right)) :
    ∃ rounded : Int, sub (integer left) (integer right) = real rounded ∧
      2 ^ 60 ≤ rounded.natAbs := by
  refine ⟨_, arithmetic_of_not_fits beyond, ?_⟩
  rw [nearestDouble_of_lt small]
  have operand := natAbs_le_two_mul_nearestDouble right
  have result := natAbs_le_two_mul_nearestDouble (left - nearestDouble right)
  unfold FitsI64 i64Min i64Max at beyond
  omega

end SqlNumber

/-! ## Text as a number -/

def isSqlSpace (character : Char) : Bool :=
  character.toNat = 32 || (9 ≤ character.toNat && character.toNat ≤ 13)

/-- `CAST(text AS INTEGER)`: the longest prefix that is a number, or the nearest one of 64 bits. -/
def castInteger (text : List Char) : Int :=
  let trimmed := text.dropWhile isSqlSpace
  let digits := (Decimal.stripSign trimmed).takeWhile Char.isDigit
  let magnitude := Nat.ofDigitChars 10 digits 0
  max i64Min (min i64Max (if trimmed.head? = some '-' then -(magnitude : Int) else magnitude))

theorem castInteger_text {value : Int} (fits : FitsI64 value) :
    castInteger (Decimal.text value) = value := by
  have plain : (Decimal.text value).dropWhile isSqlSpace = Decimal.text value := by
    cases text : Decimal.text value with
    | nil => rfl
    | cons first rest =>
        have member : first ∈ Decimal.text value := by
          rw [text]
          exact List.mem_cons_self
        have dark : isSqlSpace first = false := by
          rcases Decimal.mem_text member with digit | rfl
          · have bounds := Decimal.toNat_of_isDigit digit
            simp only [isSqlSpace, Bool.or_eq_false_iff, decide_eq_false_iff_not,
              Bool.and_eq_false_iff]
            omega
          · decide
        rw [List.dropWhile_cons, if_neg (by rw [dark]; decide)]
  have all : (Nat.toDigits 10 value.natAbs).takeWhile Char.isDigit =
      Nat.toDigits 10 value.natAbs :=
    List.takeWhile_eq_self_iff.mpr fun _ member => Decimal.isDigit_of_mem member
  have signed : (if (Decimal.text value).head? = some '-' then -(value.natAbs : Int)
      else value.natAbs) = value := by
    split
    · rename_i minus
      have negative := (Decimal.head_text value).mp minus
      omega
    · rename_i minus
      have nonnegative := mt (Decimal.head_text value).mpr minus
      omega
  unfold castInteger
  dsimp only
  rw [plain, Decimal.stripSign_text, all, Nat.ofDigitChars_ten_toDigits, signed,
    min_eq_right fits.2, max_eq_right fits.1]

end Guiying.Foundation
