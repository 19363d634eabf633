import Mathlib.Tactic.TypeStar

/-!
# Programs over a state

A program takes a state to its result and to the state it leaves, also when it
fails. `Meets` is the triple of a program: one postcondition for the value it
returns and one for the error it stops with. Every way to build a program has
one rule.
-/

namespace Guiying.Foundation

universe u v v' w w'

/-- A computation that may fail, over an explicit state. -/
def Program (σ : Type u) (ε : Type v) (α : Type w) : Type (max u v w) := σ → Except ε α × σ

namespace Program

variable {σ : Type u} {ε : Type v} {ε' : Type v'} {α : Type w}

def ret (value : α) : Program σ ε α := fun state => (.ok value, state)

def chain {β : Type w'} (first : Program σ ε α) (next : α → Program σ ε β) : Program σ ε β :=
  fun state =>
    match first state with
    | (.ok value, after) => next value after
    | (.error error, after) => (.error error, after)

instance : Monad (Program.{u, v, w} σ ε) where
  pure := ret
  bind := chain

def fail (error : ε) : Program σ ε α := fun state => (.error error, state)

def current : Program σ ε σ := fun state => (.ok state, state)

def update (change : σ → σ) : Program σ ε PUnit := fun state => (.ok ⟨⟩, change state)

/-- Stop with `error` unless the condition holds. -/
def ensure (condition : Bool) (error : ε) : Program σ ε PUnit :=
  if condition then ret ⟨⟩ else fail error

def orFail (error : ε) : Option α → Program σ ε α
  | some value => ret value
  | none => fail error

def ofExcept : Except ε α → Program σ ε α
  | .ok value => ret value
  | .error error => fail error

def mapError (change : ε → ε') (program : Program σ ε α) : Program σ ε' α := fun state =>
  match program state with
  | (.ok value, after) => (.ok value, after)
  | (.error error, after) => (.error (change error), after)

/-- Hand the error of a program to the caller. -/
def attempt (program : Program σ ε α) : Program σ ε' (Except ε α) := fun state =>
  (.ok (program state).1, (program state).2)

/-- Run `cleanup` on the state a program leaves, whatever its result. -/
def withCleanup (program : Program σ ε α) (cleanup : σ → σ) : Program σ ε α := fun state =>
  ((program state).1, cleanup (program state).2)

/-! ## Running a program -/

@[simp] theorem ret_bind {β : Type w} (value : α) (next : α → Program σ ε β) :
    (pure value : Program σ ε α) >>= next = next value := rfl

@[simp] theorem fail_bind {β : Type w} (error : ε) (next : α → Program σ ε β) :
    (fail error : Program σ ε α) >>= next = fail error := rfl

@[simp] theorem ensure_true (error : ε) :
    (ensure true error : Program σ ε PUnit) = pure ⟨⟩ := rfl

@[simp] theorem ensure_false (error : ε) :
    (ensure false error : Program σ ε PUnit) = fail error := rfl

@[simp] theorem orFail_some (error : ε) (value : α) :
    (orFail error (some value) : Program σ ε α) = pure value := rfl

@[simp] theorem ofExcept_ok_bind {β : Type w} (value : α) (next : α → Program σ ε β) :
    (ofExcept (.ok value) >>= next) = next value := rfl

theorem bind_run {β : Type w} (first : Program σ ε α) (next : α → Program σ ε β) (state : σ) :
    (first >>= next) state =
      match first state with
      | (.ok value, after) => next value after
      | (.error error, after) => (.error error, after) := rfl

/-- A program whose first part has returned goes on with what it returned. -/
theorem bind_after {β : Type w} {first : Program σ ε α} {next : α → Program σ ε β} {state after : σ}
    {value : α} (ran : first state = (.ok value, after)) :
    (first >>= next) state = next value after := by
  rw [bind_run, ran]

theorem pure_run (value : α) (state : σ) :
    (pure value : Program σ ε α) state = (.ok value, state) := rfl

/-! ## Triples -/

/-- From a state with `pre` the program returns with `good` or stops with `bad`. -/
def Meets (pre : σ → Prop) (program : Program σ ε α) (good : α → σ → Prop)
    (bad : ε → σ → Prop) : Prop :=
  ∀ state, pre state →
    match program state with
    | (.ok value, after) => good value after
    | (.error error, after) => bad error after

variable {pre : σ → Prop} {program : Program σ ε α} {good : α → σ → Prop} {bad : ε → σ → Prop}

theorem Meets.of_ok (meets : Meets pre program good bad) {state after : σ} {value : α}
    (holds : pre state) (ran : program state = (.ok value, after)) : good value after := by
  have result := meets state holds
  rwa [ran] at result

theorem Meets.of_error (meets : Meets pre program good bad) {state after : σ} {error : ε}
    (holds : pre state) (ran : program state = (.error error, after)) : bad error after := by
  have result := meets state holds
  rwa [ran] at result

theorem Meets.consequence (meets : Meets pre program good bad) {pre' : σ → Prop}
    {good' : α → σ → Prop} {bad' : ε → σ → Prop} (enough : ∀ state, pre' state → pre state)
    (returns : ∀ value state, good value state → good' value state)
    (stops : ∀ error state, bad error state → bad' error state) :
    Meets pre' program good' bad' := by
  intro state holds
  have result := meets state (enough state holds)
  cases ran : program state with
  | mk outcome after =>
      rw [ran] at result
      cases outcome with
      | ok value => exact returns value after result
      | error error => exact stops error after result

theorem meets_ret {value : α} (holds : ∀ state, pre state → good value state) :
    Meets pre (ret value : Program σ ε α) good bad := holds

theorem meets_pure {value : α} (holds : ∀ state, pre state → good value state) :
    Meets pre (pure value : Program σ ε α) good bad := holds

theorem meets_fail {error : ε} (holds : ∀ state, pre state → bad error state) :
    Meets pre (fail error : Program σ ε α) good bad := holds

theorem meets_update {change : σ → σ} {good : PUnit → σ → Prop}
    (holds : ∀ state, pre state → good ⟨⟩ (change state)) :
    Meets pre (update change : Program σ ε PUnit) good bad := holds

theorem meets_chain {β : Type w'} {next : α → Program σ ε β} {good : β → σ → Prop}
    {middle : α → σ → Prop} (first : Meets pre program middle bad)
    (rest : ∀ value, Meets (middle value) (next value) good bad) :
    Meets pre (chain program next) good bad := by
  intro state holds
  have result := first state holds
  unfold chain
  cases ran : program state with
  | mk outcome after =>
      rw [ran] at result
      cases outcome with
      | ok value => exact rest value after result
      | error error => exact result

theorem meets_bind {β : Type w} {next : α → Program σ ε β} {good : β → σ → Prop}
    {middle : α → σ → Prop} (first : Meets pre program middle bad)
    (rest : ∀ value, Meets (middle value) (next value) good bad) :
    Meets pre (program >>= next) good bad :=
  meets_chain first rest

/-- The rule of `meets_bind` with the condition between the two parts named. -/
theorem meets_via {β : Type w} {next : α → Program σ ε β} {good : β → σ → Prop}
    (middle : α → σ → Prop) (first : Meets pre program middle bad)
    (rest : ∀ value, Meets (middle value) (next value) good bad) :
    Meets pre (program >>= next) good bad :=
  meets_chain first rest

theorem meets_ensure {condition : Bool} {error : ε} {good : PUnit → σ → Prop}
    (passes : condition = true → ∀ state, pre state → good ⟨⟩ state)
    (refuses : condition = false → ∀ state, pre state → bad error state) :
    Meets pre (ensure condition error) good bad := by
  unfold ensure
  cases condition with
  | true => exact meets_ret (passes rfl)
  | false => exact meets_fail (refuses rfl)

theorem meets_orFail {found : Option α} {error : ε}
    (passes : ∀ value, found = some value → ∀ state, pre state → good value state)
    (refuses : found = none → ∀ state, pre state → bad error state) :
    Meets pre (orFail error found) good bad := by
  cases found with
  | some value => exact meets_ret (passes value rfl)
  | none => exact meets_fail (refuses rfl)

/-- A guard keeps its precondition for what follows. -/
theorem meets_ensure_bind {condition : Bool} {error : ε} {next : PUnit → Program σ ε α}
    (refuses : condition = false → ∀ state, pre state → bad error state)
    (rest : condition = true → Meets pre (next ⟨⟩) good bad) :
    Meets pre (ensure condition error >>= next) good bad := by
  cases condition with
  | true => exact rest rfl
  | false => exact meets_fail (refuses rfl)

theorem meets_orFail_bind {α : Type w} {β : Type w} {found : Option α} {error : ε}
    {next : α → Program σ ε β} {good : β → σ → Prop}
    (refuses : found = none → ∀ state, pre state → bad error state)
    (rest : ∀ value, found = some value → Meets pre (next value) good bad) :
    Meets pre (orFail error found >>= next) good bad := by
  cases found with
  | some value => exact rest value rfl
  | none => exact meets_fail (refuses rfl)

theorem meets_mapError {change : ε → ε'} {bad : ε' → σ → Prop}
    (inner : Meets pre program good (fun error => bad (change error))) :
    Meets pre (mapError change program) good bad := by
  intro state holds
  have result := inner state holds
  unfold mapError
  cases ran : program state with
  | mk outcome after =>
      rw [ran] at result
      cases outcome with
      | ok value => exact result
      | error error => exact result

theorem meets_attempt {good : Except ε α → σ → Prop} {bad : ε' → σ → Prop}
    (inner : Meets pre program (fun value => good (.ok value)) (fun error => good (.error error))) :
    Meets pre (attempt program) good bad := by
  intro state holds
  have result := inner state holds
  unfold attempt
  cases ran : program state with
  | mk outcome after =>
      rw [ran] at result
      cases outcome with
      | ok value => exact result
      | error error => exact result

theorem meets_withCleanup {cleanup : σ → σ}
    (inner : Meets pre program (fun value state => good value (cleanup state))
      (fun error state => bad error (cleanup state))) :
    Meets pre (withCleanup program cleanup) good bad := by
  intro state holds
  have result := inner state holds
  unfold withCleanup
  cases ran : program state with
  | mk outcome after =>
      rw [ran] at result
      cases outcome with
      | ok value => exact result
      | error error => exact result

/-! ## Results

What a program returns, whatever state it starts in.
-/

/-- The program returns a value that is `good` or stops with an error that is `bad`. -/
def Yields (program : Program σ ε α) (good : α → Prop) (bad : ε → Prop) : Prop :=
  Meets (fun _ => True) program (fun value _ => good value) (fun error _ => bad error)

section Yields

variable {good good' : α → Prop} {bad bad' : ε → Prop}

theorem yields_pure {value : α} (holds : good value) :
    Yields (pure value : Program σ ε α) good bad := fun _ _ => holds

theorem yields_fail {error : ε} (holds : bad error) :
    Yields (fail error : Program σ ε α) good bad := fun _ _ => holds

theorem Yields.imp (yields : Yields program good bad)
    (returns : ∀ value, good value → good' value) (stops : ∀ error, bad error → bad' error) :
    Yields program good' bad' :=
  yields.consequence (fun _ _ => trivial) (fun value _ => returns value)
    (fun error _ => stops error)

/-- A program that never stops with an error may be said to stop with any. -/
theorem Yields.anyError (yields : Yields program good fun _ => False) : Yields program good bad :=
  yields.imp (fun _ holds => holds) fun _ => False.elim

theorem Yields.bind {β : Type w} {next : α → Program σ ε β} {middle : α → Prop} {good : β → Prop}
    (first : Yields program middle bad) (rest : ∀ value, middle value → Yields (next value) good bad) :
    Yields (program >>= next) good bad :=
  meets_bind first fun value state holds => rest value holds state trivial

theorem Yields.mapError {change : ε → ε'} {bad' : ε' → Prop}
    (inner : Yields program good fun error => bad' (change error)) :
    Yields (mapError change program) good bad' :=
  meets_mapError inner

/-- A program that never stops with an error. -/
theorem Yields.returns (yields : Yields program good fun _ => False) (state : σ) :
    ∃ value, (program state).1 = .ok value ∧ good value := by
  have result := yields state trivial
  revert result
  rcases program state with ⟨_ | value, _⟩
  · exact False.elim
  · exact fun holds => ⟨value, rfl, holds⟩

/-- A program that never returns. -/
theorem Yields.stops (yields : Yields program (fun _ => False) bad) (state : σ) :
    ∃ error, (program state).1 = .error error ∧ bad error := by
  have result := yields state trivial
  revert result
  rcases program state with ⟨error | _, _⟩
  · exact fun holds => ⟨error, rfl, holds⟩
  · exact False.elim

/-! What a program returns, when it is nothing to the point how it stops. -/

abbrev Returns (program : Program σ ε α) (good : α → Prop) : Prop :=
  Yields program good fun _ => True

theorem returns_any : Returns program fun _ => True := by
  intro state _
  cases program state with
  | mk outcome after => cases outcome <;> exact trivial

theorem returns_ensure_bind {condition : Bool} {error : ε} {next : PUnit → Program σ ε α}
    (rest : condition = true → Returns (next ⟨⟩) good) :
    Returns (ensure condition error >>= next) good :=
  meets_ensure_bind (fun _ _ _ => trivial) rest

theorem returns_orFail_bind {α : Type w} {β : Type w} {found : Option α} {error : ε}
    {next : α → Program σ ε β} {good : β → Prop}
    (rest : ∀ value, found = some value → Returns (next value) good) :
    Returns (orFail error found >>= next) good :=
  meets_orFail_bind (fun _ _ _ => trivial) rest

/-- The first part may return anything. -/
theorem returns_skip_bind {β : Type w} {next : α → Program σ ε β} {good : β → Prop}
    (rest : ∀ value, Returns (next value) good) : Returns (program >>= next) good :=
  Yields.bind returns_any fun value _ => rest value

theorem Returns.withCleanup {cleanup : σ → σ} (inner : Returns program good) :
    Returns (withCleanup program cleanup) good :=
  meets_withCleanup inner

theorem Returns.of_ok (returns : Returns program good) {state : σ} {value : α}
    (ran : (program state).1 = .ok value) : good value := by
  have result := returns state trivial
  revert result ran
  rcases program state with ⟨outcome, after⟩
  rintro rfl
  exact id

end Yields

/-! ## Programs that only read -/

/-- The program leaves the state as it is. -/
def Reads (program : Program σ ε α) : Prop := ∀ state, (program state).2 = state

theorem Reads.meets (reads : Reads program) :
    Meets pre program (fun _ => pre) (fun _ => pre) := by
  intro state holds
  have same := reads state
  cases ran : program state with
  | mk outcome after =>
      rw [ran] at same
      have same : after = state := same
      subst same
      cases outcome with
      | ok value => exact holds
      | error error => exact holds

theorem reads_pure {value : α} : Reads (pure value : Program σ ε α) := fun _ => rfl

theorem reads_fail {error : ε} : Reads (fail error : Program σ ε α) := fun _ => rfl

theorem reads_current : Reads (current : Program σ ε σ) := fun _ => rfl

theorem reads_ensure {condition : Bool} {error : ε} :
    Reads (ensure condition error : Program σ ε PUnit) := by
  cases condition with
  | true => exact fun _ => rfl
  | false => exact fun _ => rfl

theorem reads_orFail {found : Option α} {error : ε} :
    Reads (orFail error found : Program σ ε α) := by
  cases found with
  | some value => exact fun _ => rfl
  | none => exact fun _ => rfl

theorem reads_bind {β : Type w} {next : α → Program σ ε β} (first : Reads program)
    (rest : ∀ value, Reads (next value)) : Reads (program >>= next) := by
  intro state
  have same := first state
  change (chain program next state).2 = state
  unfold chain
  cases ran : program state with
  | mk outcome after =>
      rw [ran] at same
      cases outcome with
      | ok value => exact (rest value after).trans same
      | error error => exact same

/-- Whatever its result, the program leaves this view of the state as it is. -/
def Keeps {β : Sort v'} (view : σ → β) (program : Program σ ε α) : Prop :=
  ∀ state, view (program state).2 = view state

section Keeps

variable {γ : Sort v'} {view : σ → γ}

theorem Reads.keeps (reads : Reads program) : Keeps view program :=
  fun state => congrArg view (reads state)

theorem Keeps.meets (keeps : Keeps view program) (value : γ) :
    Meets (fun state => view state = value) program (fun _ state => view state = value)
      (fun _ state => view state = value) := by
  intro state holds
  have same := keeps state
  cases ran : program state with
  | mk outcome after =>
      rw [ran] at same
      cases outcome with
      | ok _ => exact same.trans holds
      | error _ => exact same.trans holds

/-- The rule of `Keeps.meets` with the run that returned the value. -/
theorem Keeps.meets_run (keeps : Keeps view program) (value : γ) :
    Meets (fun state => view state = value) program
      (fun returned state => view state = value ∧ ∃ start, program start = (.ok returned, state))
      (fun _ state => view state = value) := by
  intro state holds
  have same := keeps state
  cases ran : program state with
  | mk outcome after =>
      rw [ran] at same
      cases outcome with
      | ok _ => exact ⟨same.trans holds, state, ran⟩
      | error _ => exact same.trans holds

theorem keeps_bind {β : Type w} {next : α → Program σ ε β} (first : Keeps view program)
    (rest : ∀ value, Keeps view (next value)) : Keeps view (program >>= next) := by
  intro state
  have same := first state
  change view (chain program next state).2 = view state
  unfold chain
  cases ran : program state with
  | mk outcome after =>
      rw [ran] at same
      cases outcome with
      | ok value => exact (rest value after).trans same
      | error error => exact same

end Keeps

/-- Whatever its result, the program adds at most so much to a measure of the state. -/
def Adds (measure : σ → Nat) (bound : Nat) (program : Program σ ε α) : Prop :=
  ∀ state, measure (program state).2 ≤ measure state + bound

section Adds

variable {measure : σ → Nat} {bound more : Nat}

theorem Keeps.adds (keeps : Keeps measure program) : Adds measure bound program :=
  fun state => Nat.le_trans (Nat.le_of_eq (keeps state)) (Nat.le_add_right _ _)

theorem Adds.mono (adds : Adds measure bound program) (less : bound ≤ more) :
    Adds measure more program :=
  fun state => Nat.le_trans (adds state) (Nat.add_le_add_left less _)

/-- What follows may use what the first part returned. -/
theorem Adds.bind {β : Type w} {next : α → Program σ ε β} {total : Nat}
    (first : Adds measure bound program)
    (rest : ∀ value state after, program state = (.ok value, after) →
      Adds measure more (next value)) (enough : bound + more ≤ total) :
    Adds measure total (program >>= next) := by
  intro state
  have start := first state
  rw [bind_run]
  cases ran : program state with
  | mk outcome after =>
      rw [ran] at start
      cases outcome with
      | ok value =>
          have ended := rest value state after ran after
          dsimp only at start ⊢
          omega
      | error error =>
          dsimp only at start ⊢
          omega

theorem Keeps.adds_bind {β : Type w} {next : α → Program σ ε β} (first : Keeps measure program)
    (rest : ∀ value state after, program state = (.ok value, after) →
      Adds measure bound (next value)) : Adds measure bound (program >>= next) :=
  (first.adds : Adds measure 0 program).bind rest (Nat.le_of_eq (Nat.zero_add _))

end Adds

/-- A program that only reads keeps its precondition for what follows. -/
theorem meets_reads_bind {β : Type w} {next : α → Program σ ε β} {good : β → σ → Prop}
    (reads : Reads program) (stops : ∀ error state, pre state → bad error state)
    (rest : ∀ value, Meets pre (next value) good bad) : Meets pre (program >>= next) good bad :=
  meets_bind (reads.meets.consequence (fun _ holds => holds) (fun _ _ holds => holds) stops) rest

/-- What follows a look at the state starts in the state that was seen. -/
theorem meets_current_bind {β : Type u} {next : σ → Program σ ε β} {good : β → σ → Prop}
    (rest : ∀ state, pre state → Meets (fun after => after = state) (next state) good bad) :
    Meets pre (current >>= next) good bad :=
  fun state holds => rest state holds state rfl

/-! ## Programs that return

What a program did, read from the value it returned.
-/

section Returned

variable {state after : σ} {value : α}

theorem bind_eq_ok {β : Type w} {next : α → Program σ ε β} {result : β} :
    (program >>= next) state = (.ok result, after) ↔
      ∃ value middle, program state = (.ok value, middle) ∧
        next value middle = (.ok result, after) := by
  rw [bind_run]
  cases ran : program state with
  | mk outcome middle =>
      cases outcome with
      | ok value =>
          constructor
          · intro ran
            exact ⟨value, middle, rfl, ran⟩
          · rintro ⟨_, _, ⟨⟨⟩, ⟨⟩⟩, ran⟩
            exact ran
      | error error => simp

theorem pure_eq_ok {result : α} :
    (pure result : Program σ ε α) state = (.ok value, after) ↔ result = value ∧ state = after := by
  change ((.ok result : Except ε α), state) = (.ok value, after) ↔ _
  simp

theorem ensure_eq_ok {condition : Bool} {error : ε} {done : PUnit} :
    (ensure condition error : Program σ ε PUnit) state = (.ok done, after) ↔
      condition = true ∧ state = after := by
  cases condition with
  | true =>
      change ((.ok ⟨⟩ : Except ε PUnit), state) = (.ok done, after) ↔ _
      simp
  | false =>
      change ((.error error : Except ε PUnit), state) = (.ok done, after) ↔ _
      simp

theorem orFail_eq_ok {error : ε} {found : Option α} :
    (orFail error found : Program σ ε α) state = (.ok value, after) ↔
      found = some value ∧ state = after := by
  cases found with
  | some inner =>
      change ((.ok inner : Except ε α), state) = (.ok value, after) ↔ _
      simp
  | none =>
      change ((.error error : Except ε α), state) = (.ok value, after) ↔ _
      simp

theorem ofExcept_eq_ok {result : Except ε α} :
    (ofExcept result : Program σ ε α) state = (.ok value, after) ↔
      result = .ok value ∧ state = after := by
  cases result with
  | ok inner =>
      change ((.ok inner : Except ε α), state) = (.ok value, after) ↔ _
      simp
  | error error =>
      change ((.error error : Except ε α), state) = (.ok value, after) ↔ _
      simp

theorem fail_eq_ok {error : ε} :
    (fail error : Program σ ε α) state = (.ok value, after) ↔ False := by
  change ((.error error : Except ε α), state) = (.ok value, after) ↔ _
  simp

theorem current_eq_ok {seen : σ} :
    (current : Program σ ε σ) state = (.ok seen, after) ↔ state = seen ∧ state = after := by
  change ((.ok state : Except ε σ), state) = (.ok seen, after) ↔ _
  simp

theorem update_eq_ok {change : σ → σ} {done : PUnit} :
    (update change : Program σ ε PUnit) state = (.ok done, after) ↔ change state = after := by
  unfold update
  simp

/-- A program that only reads may run first when a condition asks for it. -/
theorem when_eq_ok {condition : Prop} [Decidable condition] {check : Program σ ε PUnit}
    {next : PUnit → Program σ ε α} (reads : ∀ state, (check state).2 = state) :
    (if condition then check >>= next else next ⟨⟩) state = (.ok value, after) ↔
      (condition → check state = (.ok ⟨⟩, state)) ∧ next ⟨⟩ state = (.ok value, after) := by
  split
  · rename_i asked
    rw [bind_eq_ok]
    constructor
    · rintro ⟨_, middle, ran, rest⟩
      have same := reads state
      rw [ran] at same
      subst same
      exact ⟨fun _ => ran, rest⟩
    · rintro ⟨ran, rest⟩
      exact ⟨⟨⟩, state, ran asked, rest⟩
  · rename_i skipped
    exact ⟨fun rest => ⟨fun asked => absurd asked skipped, rest⟩, And.right⟩

end Returned

/-! ## Programs that return exactly when a condition holds -/

/-- From `state` the program returns exactly when `condition` holds, and then as `good` says. -/
structure ReturnsWhen (condition : Prop) (program : Program σ ε α) (state : σ)
    (good : α → σ → Prop) : Prop where
  returns : condition → ∃ value after, program state = (.ok value, after)
  only : ∀ value after, program state = (.ok value, after) → condition ∧ good value after

namespace ReturnsWhen

variable {condition further : Prop} {state : σ} {good : α → σ → Prop}

theorem congr (returns : ReturnsWhen condition program state good)
    (same : condition ↔ further) : ReturnsWhen further program state good :=
  ⟨fun holds => returns.returns (same.mpr holds),
    fun value after ran => (returns.only value after ran).imp_left same.mp⟩

/-- A run that has returned. -/
theorem of_ok {value : α} {after : σ} (ran : program state = (.ok value, after))
    (holds : condition) (fits : good value after) : ReturnsWhen condition program state good := by
  refine ⟨fun _ => ⟨value, after, ran⟩, fun returned final again => ?_⟩
  rw [ran] at again
  cases again
  exact ⟨holds, fits⟩

/-- A run that has stopped. -/
theorem of_error {error : ε} {after : σ} (ran : program state = (.error error, after))
    (fails : ¬ condition) : ReturnsWhen condition program state good := by
  refine ⟨fun holds => absurd holds fails, fun returned final again => ?_⟩
  rw [ran] at again
  cases again

/-- A run that one test decides. -/
theorem of_test {asked : Bool} {value : α} {error : ε} {after other : σ}
    (ran : program state = if asked then (.ok value, after) else (.error error, other))
    (fits : good value after) : ReturnsWhen (asked = true) program state good := by
  cases asked with
  | true => exact of_ok ran rfl fits
  | false => exact of_error ran (by simp)

theorem pure {value : α} (holds : condition) (fits : good value state) :
    ReturnsWhen condition (Pure.pure value : Program σ ε α) state good :=
  of_ok rfl holds fits

theorem fail {error : ε} (fails : ¬ condition) :
    ReturnsWhen condition (Program.fail error : Program σ ε α) state good :=
  of_error rfl fails

/-- A triple of the program says more about what it returns. -/
theorem and_meets {pre : σ → Prop} {more : α → σ → Prop} {bad : ε → σ → Prop}
    (returns : ReturnsWhen condition program state good) (meets : Meets pre program more bad)
    (start : pre state) :
    ReturnsWhen condition program state fun value after => good value after ∧ more value after :=
  ⟨returns.returns, fun value after ran =>
    (returns.only value after ran).imp_right fun here => ⟨here, meets.of_ok start ran⟩⟩

/-- What follows runs once the first part has returned, and the whole asks for that. -/
theorem bind {β : Type w} {next : α → Program σ ε β} {final : β → σ → Prop}
    (first : ReturnsWhen further program state good) (needs : condition → further)
    (rest : ∀ value after, further → good value after →
      ReturnsWhen condition (next value) after final) :
    ReturnsWhen condition (program >>= next) state final := by
  constructor
  · intro holds
    obtain ⟨value, middle, ran⟩ := first.returns (needs holds)
    obtain ⟨result, after, ranRest⟩ :=
      (rest value middle (needs holds) (first.only value middle ran).2).returns holds
    exact ⟨result, after, bind_eq_ok.mpr ⟨value, middle, ran, ranRest⟩⟩
  · intro result after ran
    obtain ⟨value, middle, ranFirst, ranRest⟩ := bind_eq_ok.mp ran
    obtain ⟨holds, here⟩ := first.only value middle ranFirst
    exact (rest value middle holds here).only result after ranRest

theorem ensure_bind {asked : Bool} {error : ε} {next : PUnit → Program σ ε α}
    (needs : condition → asked = true)
    (rest : asked = true → ReturnsWhen condition (next ⟨⟩) state good) :
    ReturnsWhen condition (ensure asked error >>= next) state good := by
  cases asked with
  | true => exact rest rfl
  | false => exact of_error rfl fun holds => absurd (needs holds) (by simp)

theorem orFail_bind {β : Type w} {found : Option α} {error : ε} {next : α → Program σ ε β}
    {final : β → σ → Prop} (needs : condition → found.isSome = true)
    (rest : ∀ value, found = some value → ReturnsWhen condition (next value) state final) :
    ReturnsWhen condition (orFail error found >>= next) state final := by
  cases found with
  | some value => exact rest value rfl
  | none => exact of_error rfl fun holds => absurd (needs holds) (by simp)

theorem current_bind {β : Type u} {next : σ → Program σ ε β} {final : β → σ → Prop}
    (rest : ReturnsWhen condition (next state) state final) :
    ReturnsWhen condition (current >>= next) state final := ⟨rest.returns, rest.only⟩

theorem update_bind {change : σ → σ} {next : PUnit → Program σ ε α}
    (rest : ReturnsWhen condition (next ⟨⟩) (change state) good) :
    ReturnsWhen condition (update change >>= next) state good := ⟨rest.returns, rest.only⟩

theorem mapError {change : ε → ε'} (inner : ReturnsWhen condition program state good) :
    ReturnsWhen condition (Program.mapError change program) state good := by
  have same : ∀ value after, Program.mapError change program state = (.ok value, after) ↔
      program state = (.ok value, after) := by
    intro value after
    unfold Program.mapError
    rcases program state with ⟨_ | _, _⟩ <;> simp
  constructor
  · intro holds
    obtain ⟨value, after, ran⟩ := inner.returns holds
    exact ⟨value, after, (same value after).mpr ran⟩
  · exact fun value after ran => inner.only value after ((same value after).mp ran)

end ReturnsWhen

/-- Whenever the program returns, the states before and after it are related. -/
def Relates (relation : σ → σ → Prop) (program : Program σ ε α) : Prop :=
  ∀ state value after, program state = (.ok value, after) → relation state after

section Relates

variable {relation : σ → σ → Prop}

theorem Reads.eq_of_ok (reads : Reads program) {state after : σ} {value : α}
    (ran : program state = (.ok value, after)) : after = state := by
  have same := reads state
  rw [ran] at same
  exact same

theorem Reads.relates (reads : Reads program) (refl : ∀ state, relation state state) :
    Relates relation program := by
  intro state value after ran
  rw [reads.eq_of_ok ran]
  exact refl state

theorem relates_bind {β : Type w} {next : α → Program σ ε β}
    (trans : ∀ first second third, relation first second → relation second third →
      relation first third)
    (first : Relates relation program) (rest : ∀ value, Relates relation (next value)) :
    Relates relation (program >>= next) := by
  intro state result after ran
  obtain ⟨value, middle, ranFirst, ranRest⟩ := bind_eq_ok.mp ran
  exact trans _ _ _ (first _ _ _ ranFirst) (rest value _ _ _ ranRest)

/-- What follows a program that only reads. -/
theorem relates_reads_bind {β : Type w} {next : α → Program σ ε β} (reads : Reads program)
    (rest : ∀ value, Relates relation (next value)) : Relates relation (program >>= next) := by
  intro state result after ran
  obtain ⟨value, middle, ranFirst, ranRest⟩ := bind_eq_ok.mp ran
  rw [reads.eq_of_ok ranFirst] at ranRest
  exact rest value _ _ _ ranRest

end Relates

theorem reads_ofExcept {result : Except ε α} : Reads (ofExcept result : Program σ ε α) := by
  cases result with
  | ok _ => exact fun _ => rfl
  | error _ => exact fun _ => rfl

end Program

end Guiying.Foundation
