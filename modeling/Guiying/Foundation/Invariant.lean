import Guiying.Foundation.Program

/-!
# Programs under an invariant

A program that keeps an invariant of its state, however it ends, and returns only values that are
`good`. The rules follow the ways to build a program, so what one part returned is there for the
next one.
-/

namespace Guiying.Foundation.Program

universe u v v' w

variable {σ : Type u} {ε : Type v} {ε' : Type v'} {α : Type w}

/-- The program keeps the invariant and returns what is `good`. -/
def Under (inv : σ → Prop) (program : Program σ ε α) (good : α → Prop) : Prop :=
  Meets inv program (fun value state => good value ∧ inv state) (fun _ state => inv state)

section Under

variable {inv : σ → Prop} {program : Program σ ε α} {good good' : α → Prop}

theorem under_pure {value : α} (holds : good value) :
    Under inv (pure value : Program σ ε α) good := meets_pure fun _ kept => ⟨holds, kept⟩

theorem under_fail {error : ε} : Under inv (fail error : Program σ ε α) good :=
  meets_fail fun _ kept => kept

theorem under_update {change : σ → σ} (keeps : ∀ state, inv state → inv (change state)) :
    Under inv (update change : Program σ ε PUnit) fun _ => True :=
  meets_update fun state kept => ⟨trivial, keeps state kept⟩

theorem under_ensure {condition : Bool} {error : ε} :
    Under inv (ensure condition error) fun _ => condition = true :=
  meets_ensure (fun holds _ kept => ⟨holds, kept⟩) fun _ _ kept => kept

theorem under_orFail {found : Option α} {error : ε} :
    Under inv (orFail error found) fun value => found = some value :=
  meets_orFail (fun _ is _ kept => ⟨is, kept⟩) fun _ _ kept => kept

theorem Under.imp (under : Under inv program good) (returns : ∀ value, good value → good' value) :
    Under inv program good' :=
  under.consequence (fun _ kept => kept) (fun value _ result => ⟨returns value result.1, result.2⟩)
    fun _ _ kept => kept

theorem Under.bind {β : Type w} {next : α → Program σ ε β} {last : β → Prop}
    (first : Under inv program good) (rest : ∀ value, good value → Under inv (next value) last) :
    Under inv (program >>= next) last :=
  meets_bind first fun value state result => rest value result.1 state result.2

/-- The rule of `Under.bind` for a first part whose result does not matter. -/
theorem Under.next {β : Type w} {next : α → Program σ ε β} {last : β → Prop}
    (first : Under inv program good) (rest : ∀ value, Under inv (next value) last) :
    Under inv (program >>= next) last :=
  first.bind fun value _ => rest value

theorem Under.skip {β : Type w} {next : α → Program σ ε β} {last : β → Prop}
    (first : Under inv program fun _ => True) (rest : ∀ value, Under inv (next value) last) :
    Under inv (program >>= next) last :=
  first.next rest

theorem under_attempt (under : Under inv program good) :
    Under inv (attempt program : Program σ ε' (Except ε α))
      fun result => ∀ value, result = .ok value → good value := by
  refine meets_attempt (under.consequence (fun _ kept => kept) (fun value _ result => ?_)
    fun error _ kept => ?_)
  · refine ⟨fun other same => ?_, result.2⟩
    cases same
    exact result.1
  · exact ⟨fun other same => (by cases same), kept⟩

end Under

/-! ## Programs that return -/

/-- Where the program returns, it has kept the invariant and returns what is `good`. Nothing is
said of where it stops. -/
def Along (inv : σ → Prop) (program : Program σ ε α) (good : α → Prop) : Prop :=
  Meets inv program (fun value state => good value ∧ inv state) fun _ _ => True

section Along

variable {inv : σ → Prop} {program : Program σ ε α} {good good' : α → Prop}

theorem along_of_returns (returns : ∀ state value after, inv state →
    program state = (.ok value, after) → good value ∧ inv after) : Along inv program good := by
  intro state kept
  cases ran : program state with
  | mk outcome after =>
      cases outcome with
      | ok value => exact returns state value after kept ran
      | error _ => exact trivial

theorem along_pure {value : α} (holds : good value) :
    Along inv (pure value : Program σ ε α) good := meets_pure fun _ kept => ⟨holds, kept⟩

theorem along_fail {error : ε} : Along inv (fail error : Program σ ε α) good :=
  meets_fail fun _ _ => trivial

theorem along_update {change : σ → σ} (keeps : ∀ state, inv state → inv (change state)) :
    Along inv (update change : Program σ ε PUnit) fun _ => True :=
  meets_update fun state kept => ⟨trivial, keeps state kept⟩

theorem along_check {condition : Bool} {error : ε} :
    Along inv (ensure condition error) fun _ => condition = true :=
  meets_ensure (fun holds _ kept => ⟨holds, kept⟩) fun _ _ _ => trivial

theorem along_ensure {condition : Prop} [Decidable condition] {error : ε} :
    Along inv (ensure (decide condition) error) fun _ => condition :=
  meets_ensure (fun holds _ kept => ⟨of_decide_eq_true holds, kept⟩) fun _ _ _ => trivial

theorem along_orFail {found : Option α} {error : ε} :
    Along inv (orFail error found) fun value => found = some value :=
  meets_orFail (fun _ is _ kept => ⟨is, kept⟩) fun _ _ _ => trivial

theorem Along.imp (along : Along inv program good) (returns : ∀ value, good value → good' value) :
    Along inv program good' :=
  along.consequence (fun _ kept => kept) (fun value _ result => ⟨returns value result.1, result.2⟩)
    fun _ _ _ => trivial

/-- What the first part has reached may be more than the invariant. -/
theorem along_raise {β : Type w} {next : α → Program σ ε β} {last : β → σ → Prop}
    {higher : σ → Prop}
    (first : Meets inv program (fun value state => good value ∧ higher state) fun _ _ => True)
    (rest : ∀ value, good value → Meets higher (next value) last fun _ _ => True) :
    Meets inv (program >>= next) last fun _ _ => True :=
  meets_bind first fun value state result => rest value result.1 state result.2

theorem Along.bind {β : Type w} {next : α → Program σ ε β} {last : β → Prop}
    (first : Along inv program good) (rest : ∀ value, good value → Along inv (next value) last) :
    Along inv (program >>= next) last := along_raise first rest

/-- The rule of `Along.bind` for a first part whose result does not matter. -/
theorem Along.next {β : Type w} {next : α → Program σ ε β} {last : β → Prop}
    (first : Along inv program good) (rest : ∀ value, Along inv (next value) last) :
    Along inv (program >>= next) last :=
  first.bind fun value _ => rest value

theorem Along.skip {β : Type w} {next : α → Program σ ε β} {last : β → Prop}
    (first : Along inv program fun _ => True) (rest : ∀ value, Along inv (next value) last) :
    Along inv (program >>= next) last :=
  first.next rest

/-- A view that the program leaves as it is may be added to the invariant. -/
theorem Along.keeping {γ : Sort v'} {view : σ → γ} (along : Along inv program good)
    (keeps : Keeps view program) (seen : γ) :
    Along (fun state => inv state ∧ view state = seen) program good :=
  along_of_returns fun state value after kept ran => by
    have result := along.of_ok kept.1 ran
    have same := keeps state
    rw [ran] at same
    exact ⟨result.1, result.2, same.trans kept.2⟩

/-- The invariant may be lowered at the end. -/
theorem Along.lower {lower : σ → Prop} (along : Along inv program good)
    (enough : ∀ state, inv state → lower state) :
    Meets inv program (fun value state => good value ∧ lower state) fun _ _ => True :=
  along.consequence (fun _ kept => kept) (fun _ state result => ⟨result.1, enough state result.2⟩)
    fun _ _ _ => trivial

end Along

end Guiying.Foundation.Program
