import Cuttlefish.Foundation.Run

/-! # Processes that share a state

Any number of processes take turns. In one step a process reads and changes the
shared state and its own phase, as its action says; the phases of the others stay
as they are. The rules below prove an invariant of all interleavings process by
process: a step must establish what is said of the process that takes it and must
not disturb what is said of any other. -/

namespace Cuttlefish.Processes

variable {Id Shared Phase Label : Type}

structure System (Id Shared Phase : Type) where
  shared : Shared
  phase : Id → Phase

variable [DecidableEq Id]

def System.after (system : System Id Shared Phase) (id : Id) (shared : Shared) (phase : Phase) :
    System Id Shared Phase where
  shared := shared
  phase other := if other = id then phase else system.phase other

@[simp] theorem System.after_shared (system : System Id Shared Phase) (id : Id) (shared : Shared)
    (phase : Phase) : (system.after id shared phase).shared = shared := rfl

@[simp] theorem System.after_phase_self (system : System Id Shared Phase) (id : Id)
    (shared : Shared) (phase : Phase) : (system.after id shared phase).phase id = phase := by
  simp [System.after]

theorem System.after_phase_of_ne (system : System Id Shared Phase) {id other : Id}
    (different : other ≠ id) (shared : Shared) (phase : Phase) :
    (system.after id shared phase).phase other = system.phase other := by
  simp [System.after, different]

variable (act : Id → Shared → Phase → Label → Option (Shared × Phase))

def step (system : System Id Shared Phase) (label : Id × Label) :
    Option (System Id Shared Phase) :=
  match act label.1 system.shared (system.phase label.1) label.2 with
  | none => none
  | some (shared, phase) => some (system.after label.1 shared phase)

variable {act}

theorem step_eq_some {system next : System Id Shared Phase} {label : Id × Label} :
    step act system label = some next ↔
      ∃ shared phase, act label.1 system.shared (system.phase label.1) label.2 =
          some (shared, phase) ∧ next = system.after label.1 shared phase := by
  rw [step]
  cases act label.1 system.shared (system.phase label.1) label.2 with
  | none => simp
  | some result =>
      rcases result with ⟨shared, phase⟩
      constructor
      · intro isNext
        exact ⟨shared, phase, rfl, (Option.some.inj isNext).symm⟩
      · rintro ⟨_, _, same, isNext⟩
        cases same
        exact congrArg some isNext.symm

structure Everywhere (Common : Shared → Prop) (Own : Id → Shared → Phase → Prop)
    (system : System Id Shared Phase) : Prop where
  common : Common system.shared
  own : ∀ id, Own id system.shared (system.phase id)

def Preserves (act : Id → Shared → Phase → Label → Option (Shared × Phase))
    (Allowed : Id → Shared → Phase → Label → Prop) (Common : Shared → Prop)
    (Own : Id → Shared → Phase → Prop) : Prop :=
  ∀ id shared phase label sharedNext phaseNext, Common shared → Own id shared phase →
    Allowed id shared phase label → act id shared phase label = some (sharedNext, phaseNext) →
      Common sharedNext ∧ Own id sharedNext phaseNext ∧
        ∀ other otherPhase, other ≠ id → Own other shared otherPhase →
          Own other sharedNext otherPhase

theorem Everywhere.step {Allowed : Id → Shared → Phase → Label → Prop} {Common : Shared → Prop}
    {Own : Id → Shared → Phase → Prop} (preserves : Preserves act Allowed Common Own)
    {system next : System Id Shared Phase} {label : Id × Label}
    (holds : Everywhere Common Own system)
    (allowed : Allowed label.1 system.shared (system.phase label.1) label.2)
    (stepped : Processes.step act system label = some next) : Everywhere Common Own next := by
  rcases step_eq_some.mp stepped with ⟨shared, phase, acted, isNext⟩
  rcases preserves _ _ _ _ _ _ holds.common (holds.own label.1) allowed acted with
    ⟨common, own, others⟩
  subst isNext
  refine ⟨common, ?_⟩
  intro id
  by_cases same : id = label.1
  · subst same
    simpa using own
  · rw [System.after_phase_of_ne system same]
    exact others id _ same (holds.own id)

end Cuttlefish.Processes
