/-! # Refinement

An object answers calls and changes its state. What it is for is said by an
abstract object that permits, for a call in a state, some answers and next states.
A relation that single calls preserve makes every run of the first a run that the
second permits. -/

namespace Cuttlefish.Refinement

variable {State Abstract Call Answer : Type}

/-- Make the calls one after another. A call without an answer ends the run. -/
def perform (call : State → Call → Option (Answer × State)) :
    State → List Call → Option (List Answer × State)
  | state, [] => some ([], state)
  | state, first :: rest =>
      match call state first with
      | none => none
      | some (answer, next) =>
          match perform call next rest with
          | none => none
          | some (answers, final) => some (answer :: answers, final)

/-- The answers that the abstract object permits for a list of calls. -/
inductive PermitsAll (Permits : Abstract → Call → Answer → Abstract → Prop) :
    Abstract → List Call → List Answer → Abstract → Prop
  | nil (state : Abstract) : PermitsAll Permits state [] [] state
  | cons {state next final : Abstract} {call : Call} {answer : Answer} {calls : List Call}
      {answers : List Answer} (first : Permits state call answer next)
      (rest : PermitsAll Permits next calls answers final) :
      PermitsAll Permits state (call :: calls) (answer :: answers) final

def Simulates (call : State → Call → Option (Answer × State))
    (Permits : Abstract → Call → Answer → Abstract → Prop) (May : Call → Prop)
    (Related : State → Abstract → Prop) : Prop :=
  ∀ state abstract made, Related state abstract → May made →
    ∃ answer next nextAbstract, call state made = some (answer, next) ∧
      Permits abstract made answer nextAbstract ∧ Related next nextAbstract

theorem Simulates.perform {call : State → Call → Option (Answer × State)}
    {Permits : Abstract → Call → Answer → Abstract → Prop} {May : Call → Prop}
    {Related : State → Abstract → Prop} (simulates : Simulates call Permits May Related)
    {calls : List Call} (may : ∀ made ∈ calls, May made) {state : State}
    {abstract : Abstract} (related : Related state abstract) :
    ∃ answers final finalAbstract,
      Refinement.perform call state calls = some (answers, final) ∧
        PermitsAll Permits abstract calls answers finalAbstract ∧
        Related final finalAbstract := by
  induction calls generalizing state abstract with
  | nil => exact ⟨[], state, abstract, rfl, .nil abstract, related⟩
  | cons made rest induction =>
      rcases simulates state abstract made related (may made List.mem_cons_self) with
        ⟨answer, next, nextAbstract, answered, permitted, relatedNext⟩
      rcases induction (fun other member => may other (List.mem_cons_of_mem made member))
          relatedNext with
        ⟨answers, final, finalAbstract, performed, permittedAll, relatedFinal⟩
      refine ⟨answer :: answers, final, finalAbstract, ?_, .cons permitted permittedAll,
        relatedFinal⟩
      simp only [Refinement.perform, answered, performed]

end Cuttlefish.Refinement
