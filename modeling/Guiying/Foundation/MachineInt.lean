import Mathlib.Algebra.BigOperators.Group.List.Basic
import Mathlib.Data.Int.Order.Basic
import Mathlib.Order.Lattice

/-!
# Bounded integers

Machine integers are natural numbers or integers, with the bound of the machine
type written out where an operation can meet it. A `checked` operation returns
`none` outside the type, a `saturating` one returns the nearest bound.
-/

namespace Guiying.Foundation.MachineInt

/-- The number of values of `u8`, `u16`, `u32` and `u64`. -/
def u8Bound : Nat := 2 ^ 8
def u16Bound : Nat := 2 ^ 16
def u32Bound : Nat := 2 ^ 32
def u64Bound : Nat := 2 ^ 64

/-- The value itself when it fits a type with `bound` values. -/
def tryFrom (bound value : Nat) : Option Nat := if value < bound then some value else none

def checkedAdd (bound left right : Nat) : Option Nat :=
  if left + right < bound then some (left + right) else none

def checkedMul (bound left right : Nat) : Option Nat :=
  if left * right < bound then some (left * right) else none

def checkedSub (left right : Nat) : Option Nat :=
  if right ≤ left then some (left - right) else none

def saturatingAdd (bound left right : Nat) : Nat :=
  if left + right < bound then left + right else bound - 1

theorem tryFrom_eq_some {bound value result : Nat} :
    tryFrom bound value = some result ↔ value < bound ∧ result = value := by
  unfold tryFrom
  split <;> simp_all [eq_comm]

theorem checkedAdd_eq_some {bound left right sum : Nat} :
    checkedAdd bound left right = some sum ↔ left + right < bound ∧ sum = left + right := by
  unfold checkedAdd
  split <;> simp_all [eq_comm]

theorem checkedAdd_eq_none {bound left right : Nat} :
    checkedAdd bound left right = none ↔ bound ≤ left + right := by
  unfold checkedAdd
  split <;> simp_all

theorem checkedMul_eq_some {bound left right product : Nat} :
    checkedMul bound left right = some product ↔
      left * right < bound ∧ product = left * right := by
  unfold checkedMul
  split <;> simp_all [eq_comm]

theorem checkedSub_eq_some {left right difference : Nat} :
    checkedSub left right = some difference ↔ right ≤ left ∧ difference = left - right := by
  unfold checkedSub
  split <;> simp_all [eq_comm]

/-- A conversion whose failure the continuation would repeat can be left out. -/
theorem tryFrom_bind {β : Type*} {bound value : Nat} {next : Nat → Option β}
    (late : bound ≤ value → next value = none) :
    (tryFrom bound value).bind next = next value := by
  unfold tryFrom
  split
  · rfl
  · rename_i beyond
    rw [late (not_lt.mp beyond)]
    rfl

/-- A checked addition below a limit that the machine type can hold. -/
theorem checkedAdd_bind_le {β : Type*} {bound limit left right : Nat} (fits : limit < bound)
    (next : Nat → Option β) :
    ((checkedAdd bound left right).bind fun total => if total > limit then none else next total) =
      if left + right ≤ limit then next (left + right) else none := by
  unfold checkedAdd
  by_cases inside : left + right ≤ limit
  · rw [if_pos (by omega), Option.bind_some, if_neg (by omega), if_pos inside]
  · rw [if_neg inside]
    split
    · rw [Option.bind_some, if_pos (by omega)]
    · rfl

/-- A fold that adds weights and stops at the first item it does not accept, or whose weight
would leave a downward closed region, ends exactly when every item is accepted and the total
stays within the region. -/
theorem foldlM_guarded {σ α : Type*} [AddCommMonoid σ] (weight : α → σ) (within : σ → Prop)
    (accept : α → Prop) [DecidablePred within] [DecidablePred accept]
    (step : σ → α → Option σ) (closed : ∀ left right, within (left + right) → within left)
    (spec : ∀ total item, within total → step total item =
      if accept item ∧ within (total + weight item) then some (total + weight item) else none)
    (items : List α) {total : σ} (start : within total) :
    items.foldlM step total =
      if (∀ item ∈ items, accept item) ∧ within (total + (items.map weight).sum) then
        some (total + (items.map weight).sum)
      else none := by
  induction items generalizing total with
  | nil => simp [start]
  | cons item rest ih =>
      rw [List.foldlM_cons, spec total item start, List.map_cons, List.sum_cons, ← add_assoc]
      by_cases accepted : accept item ∧ within (total + weight item)
      · rw [if_pos accepted, Option.bind_eq_bind, Option.bind_some, ih accepted.2]
        simp only [List.mem_cons, forall_eq_or_imp, accepted.1, true_and]
      · rw [if_neg accepted, Option.bind_eq_bind, Option.bind_none, if_neg]
        rintro ⟨all, inside⟩
        exact accepted ⟨all item List.mem_cons_self, closed _ _ inside⟩

/-! ## The signed 128-bit scale -/

def i128Min : Int := -2 ^ 127
def i128Max : Int := 2 ^ 127 - 1

/-- The value itself when it fits `i128`. -/
def checkedI128 (value : Int) : Option Int :=
  if i128Min ≤ value ∧ value ≤ i128Max then some value else none

/-- The nearest `i128`. -/
def saturateI128 (value : Int) : Int := max i128Min (min i128Max value)

theorem checkedI128_eq_some {value result : Int} :
    checkedI128 value = some result ↔
      (i128Min ≤ value ∧ value ≤ i128Max) ∧ result = value := by
  unfold checkedI128
  split <;> simp_all [eq_comm]

theorem saturateI128_mono {left right : Int} (le : left ≤ right) :
    saturateI128 left ≤ saturateI128 right := by
  unfold saturateI128
  omega

/-! ## The signed 64-bit scale -/

def i64Min : Int := -2 ^ 63
def i64Max : Int := 2 ^ 63 - 1

/-- The value itself when it fits `i64`. -/
def checkedI64 (value : Int) : Option Int :=
  if i64Min ≤ value ∧ value ≤ i64Max then some value else none

theorem checkedI64_eq_some {value result : Int} :
    checkedI64 value = some result ↔ (i64Min ≤ value ∧ value ≤ i64Max) ∧ result = value := by
  unfold checkedI64
  split <;> simp_all [eq_comm]

/-- What an `i64` keeps of a value that arithmetic without checks leads to. -/
def wrapI64 (value : Int) : Int := value.bmod (2 ^ 64)

theorem wrapI64_of_turns {value kept : Int} (turns : Int) (same : value = kept + 2 ^ 64 * turns)
    (low : i64Min ≤ kept) (high : kept ≤ i64Max) : wrapI64 value = kept := by
  unfold i64Min at low
  unfold i64Max at high
  have residue : (kept + 2 ^ 64 * turns).bmod (2 ^ 64) = kept.bmod (2 ^ 64) :=
    Int.add_mul_bmod_self_left kept (2 ^ 64) turns
  rw [wrapI64, same, residue]
  exact Int.bmod_eq_of_le (by omega) (by omega)

theorem wrapI64_of_fits {value : Int} (low : i64Min ≤ value) (high : value ≤ i64Max) :
    wrapI64 value = value :=
  wrapI64_of_turns 0 (by rw [Int.mul_zero, Int.add_zero]) low high

end Guiying.Foundation.MachineInt
