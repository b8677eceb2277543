/-! # Runs of a labelled step function

A system is given by a partial step function: `step state label` is `none`
when the label is not enabled in the state. The rules below reduce a statement
about every state of a run to one about a single step. -/

namespace Cuttlefish.Run

variable {State Label : Type} (step : State → Label → Option State)

def run : State → List Label → Option State
  | state, [] => some state
  | state, label :: labels =>
      match step state label with
      | none => none
      | some next => run next labels

/-- `Holds` is true of every state the labels pass through, the first and the
last included. Execution stops where a label is not enabled. -/
def Always (Holds : State → Prop) : State → List Label → Prop
  | state, [] => Holds state
  | state, label :: labels =>
      Holds state ∧ ∀ next, step state label = some next → Always Holds next labels

/-- Every label that is executed satisfies `Allowed` in the state it is
executed in. -/
def Along (Allowed : State → Label → Prop) : State → List Label → Prop
  | _, [] => True
  | state, label :: labels =>
      ∀ next, step state label = some next →
        Allowed state label ∧ Along Allowed next labels

/-- Every label satisfies `Allowed` in the state it meets. Execution stops where
a label is not enabled. -/
def Throughout (Allowed : State → Label → Prop) : State → List Label → Prop
  | _, [] => True
  | state, label :: labels =>
      Allowed state label ∧
        ∀ next, step state label = some next → Throughout Allowed next labels

variable {step}

theorem run_cons_eq_some {state final : State} {label : Label} {labels : List Label} :
    run step state (label :: labels) = some final ↔
      ∃ next, step state label = some next ∧ run step next labels = some final := by
  cases stepped : step state label with
  | none => simp [run, stepped]
  | some next => simp [run, stepped]

theorem run_concat (state : State) (labels : List Label) (label : Label) :
    run step state (labels ++ [label]) =
      (run step state labels).bind fun next => step next label := by
  induction labels generalizing state with
  | nil =>
      rw [List.nil_append, run, run, Option.bind_some]
      cases step state label <;> rfl
  | cons first labels induction =>
      rw [List.cons_append, run, run]
      cases step state first with
      | none => rfl
      | some next => exact induction next

theorem throughout_concat {Allowed : State → Label → Prop} {state : State} {labels : List Label}
    {label : Label} :
    Throughout step Allowed state (labels ++ [label]) ↔
      Throughout step Allowed state labels ∧
        ∀ next, run step state labels = some next → Allowed next label := by
  induction labels generalizing state with
  | nil => simp [Throughout, run]
  | cons first labels induction =>
      rw [List.cons_append, Throughout, Throughout, run]
      cases step state first with
      | none => simp
      | some next => simp [induction, and_assoc]

theorem invariant_of_along {Invariant : State → Prop} {Allowed : State → Label → Prop}
    (preserved : ∀ state label next, Invariant state → Allowed state label →
      step state label = some next → Invariant next)
    {labels : List Label} {state final : State}
    (initial : Invariant state) (allowed : Along step Allowed state labels)
    (reached : run step state labels = some final) : Invariant final := by
  induction labels generalizing state with
  | nil =>
      have same : state = final := by simpa [run] using reached
      exact same ▸ initial
  | cons label labels induction =>
      rcases run_cons_eq_some.mp reached with ⟨next, stepped, rest⟩
      have parts := allowed next stepped
      exact induction (preserved state label next initial parts.1 stepped) parts.2 rest

theorem along_of_forall {Allowed : State → Label → Prop}
    (allowed : ∀ state label, Allowed state label) (labels : List Label) (state : State) :
    Along step Allowed state labels := by
  induction labels generalizing state with
  | nil => trivial
  | cons label labels induction => exact fun next _ => ⟨allowed state label, induction next⟩

theorem Along.cons {Allowed : State → Label → Prop} {state next : State} {label : Label}
    {labels : List Label} (stepped : step state label = some next)
    (allowed : Allowed state label) (rest : Along step Allowed next labels) :
    Along step Allowed state (label :: labels) := by
  intro other isOther
  rw [stepped] at isOther
  rcases Option.some.inj isOther with rfl
  exact ⟨allowed, rest⟩

theorem Along.and_mem {Allowed : State → Label → Prop} {Holds : Label → Prop} {state : State}
    {labels : List Label} (allowed : Along step Allowed state labels)
    (all : ∀ label ∈ labels, Holds label) :
    Along step (fun state label => Allowed state label ∧ Holds label) state labels := by
  induction labels generalizing state with
  | nil => trivial
  | cons label labels induction =>
      intro next stepped
      have parts := allowed next stepped
      exact ⟨⟨parts.1, all label List.mem_cons_self⟩,
        induction parts.2 fun other member => all other (List.mem_cons_of_mem label member)⟩

theorem Along.imp {Allowed Required : State → Label → Prop}
    (implies : ∀ state label, Allowed state label → Required state label) {labels : List Label}
    {state : State} (allowed : Along step Allowed state labels) :
    Along step Required state labels := by
  induction labels generalizing state with
  | nil => trivial
  | cons label labels induction =>
      intro next stepped
      have parts := allowed next stepped
      exact ⟨implies state label parts.1, induction parts.2⟩

theorem invariant_of_run {Invariant : State → Prop}
    (preserved : ∀ state label next, Invariant state →
      step state label = some next → Invariant next)
    {labels : List Label} {state final : State}
    (initial : Invariant state) (reached : run step state labels = some final) :
    Invariant final :=
  invariant_of_along (fun state label next holds _ => preserved state label next holds)
    initial (along_of_forall (fun _ _ => trivial) labels state) reached

/-- When, in a state that satisfies the invariant, `Holds` survives a step
exactly if the step is allowed, a run keeps `Holds` exactly if it takes allowed
steps only. -/
theorem always_iff_along {Invariant Holds : State → Prop}
    {Allowed : State → Label → Prop}
    (preserved : ∀ state label next, Invariant state → Holds state →
      Allowed state label → step state label = some next → Invariant next)
    (exact_ : ∀ state label next, Invariant state → Holds state →
      step state label = some next → (Holds next ↔ Allowed state label))
    {labels : List Label} {state : State} (initial : Invariant state) :
    Always step Holds state labels ↔
      Holds state ∧ Along step Allowed state labels := by
  induction labels generalizing state with
  | nil => simp [Always, Along]
  | cons label labels induction =>
      simp only [Always, Along]
      refine and_congr_right fun holds => ?_
      refine forall_congr' fun next => forall_congr' fun stepped => ?_
      have survives := exact_ state label next initial holds stepped
      constructor
      · intro rest
        have holdsNext : Holds next := by
          cases labels with
          | nil => exact rest
          | cons _ _ => exact rest.1
        have allowed := survives.mp holdsNext
        have invariantNext := preserved state label next initial holds allowed stepped
        exact ⟨allowed, ((induction invariantNext).mp rest).2⟩
      · intro parts
        rcases parts with ⟨allowed, rest⟩
        have invariantNext := preserved state label next initial holds allowed stepped
        exact (induction invariantNext).mpr ⟨survives.mpr allowed, rest⟩

theorem always_of_along {Invariant Holds : State → Prop} {Allowed : State → Label → Prop}
    (preserved : ∀ state label next, Invariant state → Allowed state label →
      step state label = some next → Invariant next)
    (implies : ∀ state, Invariant state → Holds state)
    {labels : List Label} {state : State} (initial : Invariant state)
    (allowed : Along step Allowed state labels) : Always step Holds state labels := by
  induction labels generalizing state with
  | nil => exact implies state initial
  | cons label labels induction =>
      refine ⟨implies state initial, ?_⟩
      intro next stepped
      have parts := allowed next stepped
      exact induction (preserved state label next initial parts.1 stepped) parts.2

/-- Whether the steps of a concrete run are allowed can be computed. -/
instance Along.decidable {Allowed : State → Label → Prop}
    [∀ state label, Decidable (Allowed state label)] :
    ∀ (state : State) (labels : List Label), Decidable (Along step Allowed state labels)
  | _, [] => isTrue trivial
  | state, label :: labels =>
      match stepped : step state label with
      | none => isTrue (by simp [Along, stepped])
      | some next =>
          have : Decidable (Along step Allowed next labels) := Along.decidable next labels
          decidable_of_iff (Allowed state label ∧ Along step Allowed next labels)
            (by simp [Along, stepped])

theorem Always.final {Holds : State → Prop} {state final : State} {labels : List Label}
    (always : Always step Holds state labels) (reached : run step state labels = some final) :
    Holds final := by
  induction labels generalizing state with
  | nil =>
      have same : state = final := by simpa [run] using reached
      exact same ▸ always
  | cons label labels induction =>
      rcases run_cons_eq_some.mp reached with ⟨next, stepped, rest⟩
      exact induction (always.2 next stepped) rest

end Cuttlefish.Run
