import Cuttlefish.Features.RunSetup
import Mathlib.Data.List.Dedup
import Mathlib.Logic.Function.Basic

/-! # Features that calculate a value

`ReturningSetupFeature`, whose value may be dereferenced only once it has been calculated, and
`GenericReturningSetupFeature`, which makes a feature of a function of other features. -/

namespace Cuttlefish.Features

inductive Calculation {Node : Type} (Value : Node → Type) (Outer Cause Return : Type)
  | finish (result : Except Cause Return)
  | act (change : Outer → Outer) (next : Outer → Calculation Value Outer Cause Return)
  | deref (node : Node) (next : Value node → Calculation Value Outer Cause Return)

structure Setups {Node : Type} (Value : Node → Type) (Outer : Type) where
  calculated : ∀ node, Option (Value node)
  outer : Outer

inductive Stop (Node Cause : Type)
  | dereferenced (node : Node)
  | calculatedBefore
  | failed (cause : Cause)

variable {Node : Type} {Value : Node → Type} {Outer Cause Return : Type}

namespace Calculation

def run : Calculation Value Outer Cause Return → Setups Value Outer →
    Except (Stop Node Cause) Return × Setups Value Outer
  | finish (.ok value), setups => (.ok value, setups)
  | finish (.error cause), setups => (.error (.failed cause), setups)
  | act change next, setups => run (next setups.outer) { setups with outer := change setups.outer }
  | deref node next, setups =>
      match setups.calculated node with
      | none => (.error (.dereferenced node), setups)
      | some value => run (next value) setups

inductive ReadsOnly (May : Node → Prop) : Calculation Value Outer Cause Return → Prop
  | finish (result : Except Cause Return) : ReadsOnly May (finish result)
  | act {change : Outer → Outer} {next : Outer → Calculation Value Outer Cause Return}
      (rest : ∀ outer, ReadsOnly May (next outer)) : ReadsOnly May (act change next)
  | deref {node : Node} {next : Value node → Calculation Value Outer Cause Return} (may : May node)
      (rest : ∀ value, ReadsOnly May (next value)) : ReadsOnly May (deref node next)

end Calculation

/-- `GenericReturningSetupFeature<Fn, R, Args...>`. The function is handed its arguments and sees no
other features. -/
structure GenericReturningSetupFeature (Value : Node → Type) (Outer Cause Return : Type) where
  name : String
  args : List Node
  calculate : Calculation Value Outer Cause Return
  readsArgs : calculate.ReadsOnly (· ∈ args)

def GenericReturningSetupFeature.toFeature (set : UnorderedSet Node)
    (generic : GenericReturningSetupFeature Value Outer Cause Return) : Feature Node where
  name := generic.name
  dependencies := (set.elements generic.args).map some

/-- `ReturningSetupFeature::ResultSetup`. -/
def returningSetup [DecidableEq Node]
    (generic : ∀ node, GenericReturningSetupFeature Value Outer Cause (Value node)) (node : Node)
    (setups : Setups Value Outer) : Except (Stop Node Cause) Unit × Setups Value Outer :=
  if (setups.calculated node).isSome then (.error .calculatedBefore, setups)
  else
    match (generic node).calculate.run setups with
    | (.error stop, setups) => (.error stop, setups)
    | (.ok value, setups) =>
        (.ok (), { setups with calculated := Function.update setups.calculated node (some value) })

/-! ## Nothing is dereferenced too early -/

theorem Calculation.run_of_calculated {May : Node → Prop}
    {calculation : Calculation Value Outer Cause Return} (readsOnly : calculation.ReadsOnly May)
    {setups : Setups Value Outer} (calculated : ∀ node, May node → (setups.calculated node).isSome) :
    (calculation.run setups).2.calculated = setups.calculated ∧
      ∀ stop, (calculation.run setups).1 = .error stop → ∃ cause, stop = .failed cause := by
  induction readsOnly generalizing setups with
  | finish result =>
      cases result with
      | error cause =>
          refine ⟨rfl, ?_⟩
          intro stop isError
          cases isError
          exact ⟨cause, rfl⟩
      | ok value => exact ⟨rfl, fun stop isError => by cases isError⟩
  | @act change next rest induction =>
      apply induction setups.outer
      exact calculated
  | @deref node next may rest induction =>
      rcases Option.isSome_iff_exists.mp (calculated node may) with ⟨value, isValue⟩
      rw [run, isValue]
      exact induction value calculated

section

variable (generic : ∀ node, GenericReturningSetupFeature Value Outer Cause (Value node))

def Needs (node needed : Node) : Prop := needed ∈ (generic node).args

theorem dependsOn_toFeature (set : UnorderedSet Node) :
    DependsOn (fun node => (generic node).toFeature set) = Needs generic := by
  funext node needed
  simp [DependsOn, Needs, GenericReturningSetupFeature.toFeature, set.mem_elements]

theorem wellFormed_toFeature (set : UnorderedSet Node) {features : List Node} :
    WellFormed (fun node => (generic node).toFeature set) features ↔
      (∀ node ∈ features, ∀ needed, Needs generic node needed → needed ∈ features) ∧
        ∀ node ∈ features, ¬ Relation.TransGen (Needs generic) node node := by
  rw [← dependsOn_toFeature generic set]
  constructor
  · exact fun wellFormed => ⟨wellFormed.registered, wellFormed.acyclic⟩
  · rintro ⟨registered, acyclic⟩
    refine ⟨registered, ?_, acyclic⟩
    intro node isFeature isNull
    rcases List.mem_map.mp isNull with ⟨needed, isNeeded, isNone⟩
    cases isNone

variable [DecidableEq Node]

theorem callAll_returningSetup {done rest : List Node} {setups final : Setups Value Outer}
    {outcome : Except (Node × Stop Node Cause) Unit}
    (ordered : Schedule.Ordered (Needs generic) (done ++ rest))
    (calculated : ∀ node, (setups.calculated node).isSome ↔ node ∈ done)
    (called : callAll (returningSetup generic) rest setups = (outcome, final)) :
    (∀ node stop, outcome = .error (node, stop) → ∃ cause, stop = .failed cause) ∧
      (outcome = .ok () → ∀ node, (final.calculated node).isSome ↔ node ∈ done ++ rest) := by
  induction rest generalizing done setups with
  | nil =>
      cases called
      refine ⟨fun node stop isError => (by cases isError), fun _ node => ?_⟩
      rw [List.append_nil]
      exact calculated node
  | cons node rest induction =>
      have fresh : (setups.calculated node).isSome = false := by
        have apart := (List.nodup_append.mp ordered.nodup).2.2
        rw [Bool.eq_false_iff]
        exact fun isSome => apart node ((calculated node).mp isSome) node List.mem_cons_self rfl
      have ready : ∀ needed ∈ (generic node).args, (setups.calculated needed).isSome :=
        fun needed isArg => (calculated needed).mpr (ordered.earlier isArg)
      have runs := Calculation.run_of_calculated (generic node).readsArgs ready
      rw [callAll, returningSetup, fresh] at called
      rcases ran : (generic node).calculate.run setups with ⟨stop | value, between⟩
      · simp only [ran, Bool.false_eq_true, if_false] at called
        cases called
        refine ⟨?_, fun isOk => by cases isOk⟩
        intro failing stop isError
        cases isError
        exact runs.2 stop (congrArg Prod.fst ran)
      · simp only [ran, Bool.false_eq_true, if_false] at called
        have unchanged : between.calculated = setups.calculated := by
          have same := runs.1
          rwa [ran] at same
        rw [← List.singleton_append, ← List.append_assoc] at ordered ⊢
        apply induction ordered _ called
        intro other
        rw [List.mem_append, List.mem_singleton, ← calculated other, unchanged]
        by_cases same : other = node
        · subst same
          simp
        · simp [same]

/-- Setting up features that are functions of features never dereferences one that has not been
calculated and calculates none twice: a setup fails only as its own function does. When it
succeeds, just the features that were given have a value. -/
theorem runSetup_calculates (set : UnorderedSet Node) (features : List (Option Node))
    (outer : Outer) :
    ∃ result final, runSetup set (fun node => (generic node).toFeature set) (fun _ => true)
        (returningSetup generic) features ⟨fun _ => none, outer⟩ = some (result, final) ∧
      (∀ node stop, result = .error (.setupFailed node stop) → ∃ cause, stop = .failed cause) ∧
      (result = .ok () → ∀ node, (final.calculated node).isSome ↔ some node ∈ features) := by
  rcases runSetup_setUp set (fun node => (generic node).toFeature set) (fun _ => true)
    (returningSetup generic) features ⟨fun _ => none, outer⟩ with ⟨result, final, isRun, setUp⟩
  refine ⟨result, final, isRun, ?_⟩
  cases setUp with
  | nullFeature =>
      exact ⟨fun node stop isError => (by cases isError), fun isOk => by cases isOk⟩
  | dependencyIssue =>
      exact ⟨fun node stop isError => (by cases isError), fun isOk => by cases isOk⟩
  | @ran order outcome final notNull wellFormed ordered all called =>
      rw [dependsOn_toFeature] at ordered
      rw [← List.nil_append order] at ordered
      have runs := callAll_returningSetup generic ordered (fun node => by simp) called
      rw [List.nil_append] at runs
      cases outcome with
      | error failed =>
          refine ⟨?_, fun isOk => by cases isOk⟩
          intro node stop isError
          cases isError
          exact runs.1 failed.1 failed.2 rfl
      | ok _ =>
          refine ⟨fun node stop isError => (by cases isError), fun _ node => ?_⟩
          rw [runs.2 rfl node, all node]
          simp

end

/-! ## The order does not matter -/

section

/-- The function depends on the features it reads and on nothing else. -/
inductive Calculation.Pure : Calculation Value Outer Cause Return → Prop
  | finish (result : Except Cause Return) : Pure (finish result)
  | deref {node : Node} {next : Value node → Calculation Value Outer Cause Return}
      (rest : ∀ value, Pure (next value)) : Pure (deref node next)

variable {generic : ∀ node, GenericReturningSetupFeature Value Outer Cause (Value node)}
  {May : Node → Prop} {node : Node} {order done rest : List Node}
  {first second setups final : Setups Value Outer}

theorem Calculation.run_congr {calculation : Calculation Value Outer Cause Return}
    (pure : calculation.Pure) (readsOnly : calculation.ReadsOnly May)
    (agree : ∀ node, May node → first.calculated node = second.calculated node) :
    (calculation.run first).1 = (calculation.run second).1 := by
  induction pure with
  | finish result => cases result <;> rfl
  | @deref node next rest induction =>
      cases readsOnly with
      | deref may readsRest =>
          rw [run, run, agree node may]
          cases second.calculated node with
          | none => rfl
          | some value => exact induction value (readsRest value)

theorem Calculation.Pure.unchanged {calculation : Calculation Value Outer Cause Return}
    (pure : calculation.Pure) : (calculation.run setups).2 = setups := by
  induction pure with
  | finish result => cases result <;> rfl
  | @deref node next rest induction =>
      rw [run]
      cases setups.calculated node with
      | none => rfl
      | some value => exact induction value

def Solved (generic : ∀ node, GenericReturningSetupFeature Value Outer Cause (Value node))
    (order : List Node) (setups : Setups Value Outer) : Prop :=
  ∀ node ∈ order, ∃ value, setups.calculated node = some value ∧
    ((generic node).calculate.run setups).1 = .ok value

variable [DecidableEq Node]

theorem returningSetup_eq_ok (pure : ∀ node, (generic node).calculate.Pure)
    (fresh : setups.calculated node = none) :
    returningSetup generic node setups = (.ok (), final) ↔
      ∃ value, ((generic node).calculate.run setups).1 = .ok value ∧
        final = { setups with calculated := Function.update setups.calculated node value } := by
  have unchanged : ((generic node).calculate.run setups).2 = setups := (pure node).unchanged
  rw [returningSetup, fresh, if_neg (by simp)]
  rcases ran : (generic node).calculate.run setups with ⟨stop | value, between⟩
  · simp
  · rw [ran] at unchanged
    cases unchanged
    simp only [Prod.mk.injEq, true_and, Except.ok.injEq, exists_eq_left', eq_comm]

theorem solved_of_callAll (pure : ∀ node, (generic node).calculate.Pure)
    (ordered : Schedule.Ordered (Needs generic) (done ++ rest))
    (calculated : ∀ node, (setups.calculated node).isSome ↔ node ∈ done)
    (solved : Solved generic done setups)
    (called : callAll (returningSetup generic) rest setups = (.ok (), final)) :
    Solved generic (done ++ rest) final := by
  induction rest generalizing done setups with
  | nil =>
      cases called
      rwa [List.append_nil]
  | cons node rest induction =>
      have absent : node ∉ done := fun isDone =>
        (List.nodup_append.mp ordered.nodup).2.2 node isDone node List.mem_cons_self rfl
      have fresh : setups.calculated node = none := by
        rw [← Option.not_isSome_iff_eq_none, calculated node]
        exact absent
      rw [callAll] at called
      rcases setUp : returningSetup generic node setups with ⟨stop | _, between⟩
      · rw [setUp] at called
        cases called
      rw [setUp] at called
      rcases (returningSetup_eq_ok pure fresh).mp setUp with ⟨value, isValue, rfl⟩
      rw [← List.singleton_append, ← List.append_assoc] at ordered ⊢
      refine induction ordered ?_ ?_ called
      · intro other
        rw [List.mem_append, List.mem_singleton, ← calculated other]
        by_cases same : other = node
        · subst same
          simp
        · simp [same]
      · -- what a function reads stands in front of it and is not changed by the new value
        have keeps : ∀ other, other ∈ done ∨ other = node →
            ∀ needed, Needs generic other needed →
              Function.update setups.calculated node (some value) needed =
                setups.calculated needed := by
          intro other isBefore needed needs
          have isDone : needed ∈ done := by
            rcases isBefore with isDone | rfl
            · rw [List.append_assoc] at ordered
              exact ordered.left.closed isDone needs
            · rw [List.append_assoc] at ordered
              exact ordered.earlier needs
          rw [Function.update_of_ne]
          rintro rfl
          exact absent isDone
        intro other isBefore
        rw [List.mem_append, List.mem_singleton] at isBefore
        have same : ((generic other).calculate.run
            { setups with calculated := Function.update setups.calculated node (some value) }).1 =
              ((generic other).calculate.run setups).1 :=
          Calculation.run_congr (pure other) (generic other).readsArgs (keeps other isBefore)
        rw [same]
        rcases isBefore with isDone | rfl
        · rcases solved other isDone with ⟨earlier, isEarlier, returned⟩
          refine ⟨earlier, ?_, returned⟩
          have different : other ≠ node := fun same => absent (same ▸ isDone)
          exact (Function.update_of_ne different _ _).trans isEarlier
        · exact ⟨value, by simp, isValue⟩

theorem callAll_of_solved (pure : ∀ node, (generic node).calculate.Pure)
    (solved : Solved generic order final)
    (ordered : Schedule.Ordered (Needs generic) (done ++ rest))
    (inside : ∀ node ∈ done ++ rest, node ∈ order)
    (calculated : ∀ node, setups.calculated node = if node ∈ done then final.calculated node else none) :
    ∃ last, callAll (returningSetup generic) rest setups = (.ok (), last) ∧
      last.outer = setups.outer ∧
      ∀ node, last.calculated node = if node ∈ done ++ rest then final.calculated node else none := by
  induction rest generalizing done setups with
  | nil =>
      refine ⟨setups, rfl, rfl, ?_⟩
      rwa [List.append_nil]
  | cons node rest induction =>
      have absent : node ∉ done := fun isDone =>
        (List.nodup_append.mp ordered.nodup).2.2 node isDone node List.mem_cons_self rfl
      have fresh : setups.calculated node = none := by
        rw [calculated node, if_neg absent]
      rcases solved node (inside node (by simp)) with ⟨value, isValue, returned⟩
      have same : ((generic node).calculate.run setups).1 =
          ((generic node).calculate.run final).1 := by
        apply Calculation.run_congr (pure node) (generic node).readsArgs
        intro needed needs
        rw [calculated needed, if_pos (ordered.earlier needs)]
      have setUp : returningSetup generic node setups =
          (.ok (), { setups with calculated := Function.update setups.calculated node value }) :=
        (returningSetup_eq_ok pure fresh).mpr ⟨value, same.trans returned, rfl⟩
      rw [← List.singleton_append, ← List.append_assoc] at ordered inside
      have calculatedNow : ∀ other, Function.update setups.calculated node (some value) other =
          if other ∈ done ++ [node] then final.calculated other else none := by
        intro other
        by_cases same : other = node
        · subst same
          simp [isValue]
        · simp [same, calculated other]
      rcases @induction (done ++ [node]) ⟨Function.update setups.calculated node value, setups.outer⟩
        ordered inside calculatedNow with ⟨last, called, outer, values⟩
      refine ⟨last, ?_, outer, ?_⟩
      · rw [callAll, setUp]
        exact called
      · intro other
        rw [values other]
        simp

/-- Features that depend on nothing but other features come to the same values in whichever order
they are given and the sets are iterated. -/
theorem runSetup_order_irrelevant (pure : ∀ node, (generic node).calculate.Pure)
    (set otherSet : UnorderedSet Node) {features others : List (Option Node)}
    (same : ∀ node, node ∈ features ↔ node ∈ others) {outer : Outer}
    (ran : runSetup set (fun node => (generic node).toFeature set) (fun _ => true)
      (returningSetup generic) features ⟨fun _ => none, outer⟩ = some (.ok (), final)) :
    runSetup otherSet (fun node => (generic node).toFeature otherSet) (fun _ => true)
      (returningSetup generic) others ⟨fun _ => none, outer⟩ = some (.ok (), final) := by
  rcases runSetup_setUp set (fun node => (generic node).toFeature set) (fun _ => true)
    (returningSetup generic) features ⟨fun _ => none, outer⟩ with ⟨result, last, isRun, setUp⟩
  rw [ran] at isRun
  cases isRun
  rcases setUp.of_ok with ⟨notNull, wellFormed, order, ordered, all, called⟩
  rw [dependsOn_toFeature] at ordered
  rw [← List.nil_append order] at ordered
  have solved : Solved generic order final :=
    solved_of_callAll pure ordered (fun node => by simp)
      (fun node isIn => absurd isIn List.not_mem_nil) called
  have noneCalculated : ∀ outer node, (⟨fun _ => none, outer⟩ : Setups Value Outer).calculated node =
      if node ∈ [] then final.calculated node else none := by
    intro outer node
    simp
  have values : final.outer = outer ∧
      ∀ node, final.calculated node = if node ∈ order then final.calculated node else none := by
    rcases callAll_of_solved pure solved ordered (fun _ isIn => isIn) (noneCalculated outer) with
      ⟨again, calledAgain, isLast⟩
    rw [called] at calledAgain
    cases calledAgain
    simpa using isLast
  have wellFormedOther : WellFormed (fun node => (generic node).toFeature otherSet)
      (enabledFeatures (fun _ => true) others) := by
    rw [wellFormed_toFeature] at wellFormed ⊢
    have isEnabled : ∀ node, node ∈ enabledFeatures (fun _ => true) features ↔
        node ∈ enabledFeatures (fun _ => true) others := by
      intro node
      rw [mem_enabledFeatures, mem_enabledFeatures, same]
    simpa only [isEnabled] using wellFormed
  rcases runSetup_setUp otherSet (fun node => (generic node).toFeature otherSet) (fun _ => true)
    (returningSetup generic) others ⟨fun _ => none, outer⟩ with ⟨result, last, isRun, setUpOther⟩
  cases setUpOther with
  | nullFeature isNull => exact absurd ((same none).mpr isNull) notNull
  | dependencyIssue _ _ illFormed => exact absurd wellFormedOther illFormed
  | @ran other outcome last notNullOther wellFormedOther orderedOther allOther calledOther =>
      rw [dependsOn_toFeature] at orderedOther
      rw [← List.nil_append other] at orderedOther
      have inside : ∀ node ∈ [] ++ other, node ∈ order := by
        intro node isIn
        rw [List.nil_append, allOther node, ← same] at isIn
        exact (all node).mpr isIn
      rcases callAll_of_solved pure solved orderedOther inside (noneCalculated outer) with
        ⟨again, calledAgain, isLast⟩
      rw [calledOther] at calledAgain
      cases calledAgain
      have isFinal : last = final := by
        rcases last with ⟨calculated, lastOuter⟩
        rcases final with ⟨finalCalculated, finalOuter⟩
        congr 1
        · funext node
          refine (isLast.2 node).trans (Eq.trans ?_ (values.2 node).symm)
          have isIn : node ∈ [] ++ other ↔ node ∈ order := by
            rw [List.nil_append, allOther node, all node, same]
          simp only [isIn]
        · exact isLast.1.trans values.1.symm
      rw [isRun, isFinal]
      rfl

def doubled : (node : Bool) → GenericReturningSetupFeature (fun _ : Bool => Nat) Unit Empty Nat
  | false => ⟨"single", [], .finish (.ok 21), .finish _⟩
  | true => ⟨"double", [false], .deref false fun value => .finish (.ok (2 * value)),
      .deref List.mem_cons_self fun _ => .finish _⟩

def forwards : UnorderedSet Bool := ⟨List.dedup, by simp, List.nodup_dedup⟩

def backwards : UnorderedSet Bool :=
  ⟨fun inserted => inserted.dedup.reverse, by simp,
    fun inserted => List.nodup_reverse.mpr (List.nodup_dedup inserted)⟩

theorem runSetup_doubled :
    runSetup backwards (fun node => (doubled node).toFeature backwards) (fun _ => true)
        (returningSetup doubled) [some true, some false] ⟨fun _ => none, ()⟩ =
      some (.ok (), ⟨Function.update (Function.update (fun _ => none) false (some 21)) true (some 42),
        ()⟩) := by
  have ran : runSetup forwards (fun node => (doubled node).toFeature forwards) (fun _ => true)
      (returningSetup doubled) [some false, some true] ⟨fun _ => none, ()⟩ =
        some (.ok (), ⟨Function.update (Function.update (fun _ => none) false (some 21)) true (some 42),
          ()⟩) := rfl
  refine runSetup_order_irrelevant ?_ forwards backwards ?_ ran
  · intro node
    cases node with
    | false => exact .finish _
    | true => exact .deref fun _ => .finish _
  · intro node
    simp [or_comm]

end

end Cuttlefish.Features
