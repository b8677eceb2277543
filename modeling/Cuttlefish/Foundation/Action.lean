import Cuttlefish.Result

/-! # Actions that may fail

Sequences of operations on a state. A failed operation ends the sequence, with the state as it has
left it. -/

namespace Cuttlefish

def Action (State Value : Type) := State → Result Value × State

namespace Action

variable {State First Second Value Part : Type}

instance : Monad (Action State) where
  pure value state := (.ok value, state)
  bind first next state :=
    match first state with
    | (.ok value, state) => next value state
    | (.error failure, state) => (.error failure, state)

def get : Action State State := fun state => (.ok state, state)

def modify (change : State → State) : Action State Unit := fun state => (.ok (), change state)

/-- `CF_EXPECT(condition, message)`. -/
def expect (condition : Bool) (message : String) : Action State Unit :=
  fun state => (cfExpect condition message, state)

def ofResult (result : Result Value) : Action State Value := fun state => (result, state)

def attempt (action : Action State Value) : Action State (Result Value) :=
  fun state => (.ok (action state).1, (action state).2)

/-! ## Running actions -/

theorem bind_cases {first : Action State First} {next : First → Action State Second}
    {state final : State} {result : Result Second} (ran : (first >>= next) state = (result, final)) :
    (∃ failure, first state = (.error failure, final) ∧ result = .error failure) ∨
      ∃ value between, first state = (.ok value, between) ∧ next value between = (result, final) := by
  change (match first state with
    | (.ok value, state) => next value state
    | (.error failure, state) => (.error failure, state)) = _ at ran
  rcases isFirst : first state with ⟨failure | value, between⟩
  · rw [isFirst] at ran
    cases ran
    exact .inl ⟨failure, rfl, rfl⟩
  · rw [isFirst] at ran
    exact .inr ⟨value, between, rfl, ran⟩

theorem bind_of_ok {first : Action State First} {next : First → Action State Second}
    {state between : State} {value : First} (ran : first state = (.ok value, between)) :
    (first >>= next) state = next value between := by
  change (match first state with
    | (.ok value, state) => next value state
    | (.error failure, state) => (.error failure, state)) = _
  rw [ran]

theorem expect_cases {condition : Bool} {message : String} {next : Unit → Action State Second}
    {state final : State} {result : Result Second}
    (ran : (expect condition message >>= next) state = (result, final)) :
    (state = final ∧ result = .error (.err message)) ∨
      condition = true ∧ next () state = (result, final) := by
  cases condition with
  | true => exact .inr ⟨rfl, ran⟩
  | false =>
      cases ran
      exact .inl ⟨rfl, rfl⟩

theorem ofResult_cases {computed : Result First} {next : First → Action State Second}
    {state final : State} {result : Result Second}
    (ran : (ofResult computed >>= next) state = (result, final)) :
    (∃ failure, computed = .error failure ∧ state = final ∧ result = .error failure) ∨
      ∃ value, computed = .ok value ∧ next value state = (result, final) := by
  cases computed with
  | error failure =>
      cases ran
      exact .inl ⟨failure, rfl, rfl, rfl⟩
  | ok value => exact .inr ⟨value, rfl, ran⟩

/-! ## Actions that do not fail -/

theorem bind_eq_ok {first : Action State First} {next : First → Action State Second}
    {state final : State} {value : Second} :
    (first >>= next) state = (.ok value, final) ↔
      ∃ middle between, first state = (.ok middle, between) ∧
        next middle between = (.ok value, final) := by
  change (match first state with
    | (.ok value, state) => next value state
    | (.error failure, state) => (.error failure, state)) = _ ↔ _
  rcases first state with ⟨failure | middle, between⟩
  · simp
  · constructor
    · exact fun isOk => ⟨middle, between, rfl, isOk⟩
    · rintro ⟨_, _, same, isOk⟩
      cases same
      exact isOk

theorem pure_eq_ok {state final : State} {value result : Value} :
    (pure value : Action State Value) state = (.ok result, final) ↔
      value = result ∧ state = final := by
  change ((.ok value, state) : Result Value × State) = _ ↔ _
  simp

theorem get_eq_ok {state final value : State} :
    get state = (.ok value, final) ↔ state = value ∧ state = final := by
  simp [get]

theorem modify_eq_ok {change : State → State} {state final : State} {value : Unit} :
    modify change state = (.ok value, final) ↔ change state = final := by
  simp [modify]

theorem expect_eq_ok {condition : Bool} {message : String} {state final : State} {value : Unit} :
    expect condition message state = (.ok value, final) ↔ condition = true ∧ state = final := by
  simp [expect, cfExpect_eq_ok]

theorem ofResult_eq_ok {result : Result Value} {state final : State} {value : Value} :
    ofResult result state = (.ok value, final) ↔ result = .ok value ∧ state = final := by
  simp [ofResult]

theorem attempt_eq_ok {action : Action State Value} {state final : State} {result : Result Value} :
    attempt action state = (.ok result, final) ↔ action state = (result, final) := by
  rcases ran : action state with ⟨outcome, between⟩
  simp [attempt, ran]

/-! ## Weakest preconditions -/

/-- The action succeeds from this state, and the postcondition holds of its value and the state
behind it. -/
def Succeeds (action : Action State Value) (post : Value → State → Prop) (state : State) : Prop :=
  ∃ value final, action state = (.ok value, final) ∧ post value final

theorem succeeds_iff {action : Action State Value} {state : State} {value : Value} :
    (action state).1 = .ok value ↔ Succeeds action (fun result _ => result = value) state := by
  rcases ran : action state with ⟨result, final⟩
  simp [Succeeds, ran]

theorem succeeds_bind {first : Action State First} {next : First → Action State Second}
    {post : Second → State → Prop} {state : State} :
    Succeeds (first >>= next) post state ↔
      Succeeds first (fun middle => Succeeds (next middle) post) state := by
  simp only [Succeeds, bind_eq_ok]
  constructor
  · rintro ⟨value, final, ⟨middle, between, isFirst, isNext⟩, holds⟩
    exact ⟨middle, between, isFirst, value, final, isNext, holds⟩
  · rintro ⟨middle, between, isFirst, value, final, isNext, holds⟩
    exact ⟨value, final, ⟨middle, between, isFirst, isNext⟩, holds⟩

theorem succeeds_pure {value : Value} {post : Value → State → Prop} {state : State} :
    Succeeds (pure value) post state ↔ post value state := by
  simp [Succeeds, pure_eq_ok, and_assoc]

theorem succeeds_get {post : State → State → Prop} {state : State} :
    Succeeds get post state ↔ post state state := by
  simp [Succeeds, get_eq_ok, and_assoc]

theorem succeeds_modify {change : State → State} {post : Unit → State → Prop} {state : State} :
    Succeeds (modify change) post state ↔ post () (change state) := by
  constructor
  · rintro ⟨⟨⟩, final, isOk, holds⟩
    rwa [modify_eq_ok.mp isOk]
  · exact fun holds => ⟨(), _, rfl, holds⟩

theorem succeeds_expect {condition : Bool} {message : String} {post : Unit → State → Prop}
    {state : State} :
    Succeeds (expect condition message) post state ↔ condition = true ∧ post () state := by
  constructor
  · rintro ⟨⟨⟩, final, isOk, holds⟩
    rcases expect_eq_ok.mp isOk with ⟨isTrue, rfl⟩
    exact ⟨isTrue, holds⟩
  · rintro ⟨isTrue, holds⟩
    exact ⟨(), state, expect_eq_ok.mpr ⟨isTrue, rfl⟩, holds⟩

theorem succeeds_ite {condition : Prop} [Decidable condition] {first second : Action State Value}
    {post : Value → State → Prop} {state : State} :
    Succeeds (if condition then first else second) post state ↔
      (condition → Succeeds first post state) ∧ (¬condition → Succeeds second post state) := by
  by_cases holds : condition
  · simp [holds]
  · simp [holds]

/-! ## What actions leave alone -/

/-- This part of the state is left alone, whether the action fails or not. -/
def Keeps (part : State → Part) (action : Action State Value) : Prop :=
  ∀ state, part (action state).2 = part state

variable {part : State → Part}

theorem Keeps.bind {first : Action State First} {next : First → Action State Second}
    (keepsFirst : Keeps part first) (keepsNext : ∀ value, Keeps part (next value)) :
    Keeps part (first >>= next) := by
  intro state
  have firstState := keepsFirst state
  change part (match first state with
    | (.ok value, state) => next value state
    | (.error failure, state) => (.error failure, state)).2 = _
  rcases ran : first state with ⟨failure | value, between⟩
  · rwa [ran] at firstState
  · rw [ran] at firstState
    exact (keepsNext value between).trans firstState

def ErrorKeeps (part : State → Part) (action : Action State Value) : Prop :=
  ∀ state failure final, action state = (.error failure, final) → part final = part state

theorem Keeps.bind_errorKeeps {first : Action State First} {next : First → Action State Second}
    (keepsFirst : Keeps part first) (keepsNext : ∀ value, ErrorKeeps part (next value)) :
    ErrorKeeps part (first >>= next) := by
  intro state failure final isError
  have firstState := keepsFirst state
  change (match first state with
    | (.ok value, state) => next value state
    | (.error failure, state) => (.error failure, state)) = _ at isError
  rcases ran : first state with ⟨firstFailure | value, between⟩
  · rw [ran] at isError firstState
    cases isError
    exact firstState
  · rw [ran] at isError firstState
    exact (keepsNext value between failure final isError).trans firstState

theorem errorKeeps_modify (change_ : State → State) : ErrorKeeps part (modify change_) := by
  intro state failure final isError
  cases isError

theorem keeps_pure (value : Value) : Keeps part (pure value : Action State Value) := fun _ => rfl

theorem keeps_get : Keeps part (get : Action State State) := fun _ => rfl

theorem keeps_expect (condition : Bool) (message : String) :
    Keeps part (expect condition message : Action State Unit) := fun _ => rfl

theorem keeps_modify {change : State → State} (keeps : ∀ state, part (change state) = part state) :
    Keeps part (modify change) := keeps

theorem Keeps.ite {condition : Prop} [Decidable condition] {first second : Action State Value}
    (keepsFirst : Keeps part first) (keepsSecond : Keeps part second) :
    Keeps part (if condition then first else second) := by
  split
  · exact keepsFirst
  · exact keepsSecond

end Action

end Cuttlefish
