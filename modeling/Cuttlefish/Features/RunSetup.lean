import Cuttlefish.Features.TopologicalVisit

/-! # Setting features up

`SetupFeature::RunSetup` orders the enabled features first and sets them up then, one after
another; `FlagFeature::ProcessFlags` lets features process flags while the walk goes on. -/

namespace Cuttlefish.Features

/-- How an `std::unordered_set` holds what has been inserted: in some order, nothing twice. -/
structure UnorderedSet (Node : Type) where
  elements : List Node → List Node
  mem_elements : ∀ inserted node, node ∈ elements inserted ↔ node ∈ inserted
  nodup : ∀ inserted, (elements inserted).Nodup

inductive SetupError (Node Cause : Type)
  | nullFeature
  | dependencyIssue (cause : VisitError Node Empty)
  | setupFailed (node : Node) (cause : Cause)

variable {Node World Cause : Type}

def SetupError.stack (feature : Node → Feature Node) (messages : Cause → List String) :
    SetupError Node Cause → List String
  | nullFeature => ["Received null feature"]
  | dependencyIssue cause => cause.stack feature (fun _ => []) ++
      ["Dependency issue detected, not performing any setup."]
  | setupFailed node cause => messages cause ++ ["Setup failed for " ++ (feature node).name]

def addFeature (node : Node) (orderedFeatures : List Node) : Except Empty Unit × List Node :=
  (.ok (), orderedFeatures ++ [node])

def enabledFeatures (enabled : Node → Bool) (features : List (Option Node)) : List Node :=
  features.reduceOption.filter enabled

section

variable [DecidableEq Node] (set : UnorderedSet Node) (feature : Node → Feature Node)

def runSetup (enabled : Node → Bool) (resultSetup : Node → World → Except Cause Unit × World)
    (features : List (Option Node)) (world : World) :
    Option (Except (SetupError Node Cause) Unit × World) :=
  if none ∈ features then some (.error .nullFeature, world)
  else
    match topologicalVisit feature addFeature
        (set.elements (enabledFeatures enabled features)) [] with
    | none => none
    | some (.error cause, _) => some (.error (.dependencyIssue cause), world)
    | some (.ok (), orderedFeatures) =>
        match callAll resultSetup orderedFeatures world with
        | (.ok (), world) => some (.ok (), world)
        | (.error (node, cause), world) => some (.error (.setupFailed node cause), world)

inductive FlagsError (Node Cause : Type)
  | nullFeature
  | unableToParse (cause : VisitError Node Cause)

def processFlags (process : Node → World → Except Cause Unit × World)
    (features : List (Option Node)) (flags : World) :
    Option (Except (FlagsError Node Cause) Unit × World) :=
  if none ∈ features then some (.error .nullFeature, flags)
  else
    match topologicalVisit feature process (set.elements features.reduceOption) flags with
    | none => none
    | some (.error cause, flags) => some (.error (.unableToParse cause), flags)
    | some (.ok (), flags) => some (.ok (), flags)

end

variable {feature : Node → Feature Node} {enabled : Node → Bool} {features : List (Option Node)}

theorem mem_enabledFeatures {node : Node} :
    node ∈ enabledFeatures enabled features ↔ some node ∈ features ∧ enabled node = true := by
  rw [enabledFeatures, List.mem_filter, List.reduceOption_mem_iff]

theorem callAll_addFeature (order orderedFeatures : List Node) :
    callAll addFeature order orderedFeatures = (.ok (), orderedFeatures ++ order) := by
  induction order generalizing orderedFeatures with
  | nil => rw [callAll, List.append_nil]
  | cons node rest induction =>
      rw [callAll, addFeature]
      simp [induction]

theorem WellFormed.of_mem_iff {first second : List Node} (same : ∀ node, node ∈ first ↔ node ∈ second)
    (wellFormed : WellFormed feature first) : WellFormed feature second where
  registered node isFeature needed depends :=
    (same needed).mp (wellFormed.registered node ((same node).mpr isFeature) needed depends)
  notNull node isFeature := wellFormed.notNull node ((same node).mpr isFeature)
  acyclic node isFeature := wellFormed.acyclic node ((same node).mpr isFeature)

theorem topologicalVisit_addFeature [DecidableEq Node] (feature : Node → Feature Node)
    (features : List Node) :
    (∃ cause collected, topologicalVisit feature addFeature features [] =
        some (.error cause, collected) ∧ ¬ WellFormed feature features) ∨
      ∃ order, topologicalVisit feature addFeature features [] = some (.ok (), order) ∧
        WellFormed feature features ∧ Schedule.Ordered (DependsOn feature) order ∧
        ∀ node, node ∈ order ↔ node ∈ features := by
  rcases topologicalVisit_calls feature addFeature features [] with
    ⟨result, final, order, outcome, isVisit, ordered, inside, called, succeeds, all⟩
  rw [callAll_addFeature, List.nil_append] at called
  cases called
  cases result with
  | error cause =>
      left
      refine ⟨cause, final, isVisit, ?_⟩
      intro wellFormed
      cases succeeds.mpr ⟨wellFormed, rfl⟩
  | ok _ =>
      right
      exact ⟨final, isVisit, (succeeds.mp rfl).1, ordered,
        fun node => ⟨inside node, all rfl node⟩⟩

/-- What becomes of a setup. Either nothing has been set up, since there is a null feature or the
enabled features cannot be put in an order, or the setups have been run up to the first one that
failed, for every enabled feature at most once and behind those that it depends on. -/
inductive SetUp (feature : Node → Feature Node) (enabled : Node → Bool)
    (resultSetup : Node → World → Except Cause Unit × World) (features : List (Option Node))
    (world : World) : Except (SetupError Node Cause) Unit → World → Prop
  | nullFeature (isNull : none ∈ features) :
      SetUp feature enabled resultSetup features world (.error .nullFeature) world
  | dependencyIssue (cause : VisitError Node Empty) (notNull : none ∉ features)
      (illFormed : ¬ WellFormed feature (enabledFeatures enabled features)) :
      SetUp feature enabled resultSetup features world (.error (.dependencyIssue cause)) world
  | ran {order : List Node} {outcome : Except (Node × Cause) Unit} {final : World}
      (notNull : none ∉ features)
      (wellFormed : WellFormed feature (enabledFeatures enabled features))
      (ordered : Schedule.Ordered (DependsOn feature) order)
      (all : ∀ node, node ∈ order ↔ some node ∈ features ∧ enabled node = true)
      (called : callAll resultSetup order world = (outcome, final)) :
      SetUp feature enabled resultSetup features world
        (outcome.mapError fun failed => .setupFailed failed.1 failed.2) final

theorem SetUp.of_ok {resultSetup : Node → World → Except Cause Unit × World} {world final : World}
    (setUp : SetUp feature enabled resultSetup features world (.ok ()) final) :
    none ∉ features ∧ WellFormed feature (enabledFeatures enabled features) ∧
      ∃ order, Schedule.Ordered (DependsOn feature) order ∧
        (∀ node, node ∈ order ↔ some node ∈ features ∧ enabled node = true) ∧
        callAll resultSetup order world = (.ok (), final) := by
  generalize isResult : (.ok () : Except (SetupError Node Cause) Unit) = result at setUp
  cases setUp with
  | nullFeature => cases isResult
  | dependencyIssue => cases isResult
  | @ran order outcome final notNull wellFormed ordered all called =>
      cases outcome with
      | error failed => cases isResult
      | ok _ => exact ⟨notNull, wellFormed, order, ordered, all, called⟩

theorem runSetup_setUp [DecidableEq Node] (set : UnorderedSet Node) (feature : Node → Feature Node)
    (enabled : Node → Bool) (resultSetup : Node → World → Except Cause Unit × World)
    (features : List (Option Node)) (world : World) :
    ∃ result final, runSetup set feature enabled resultSetup features world = some (result, final) ∧
      SetUp feature enabled resultSetup features world result final := by
  rw [runSetup]
  by_cases isNull : none ∈ features
  · rw [if_pos isNull]
    exact ⟨_, _, rfl, .nullFeature isNull⟩
  · rw [if_neg isNull]
    have same := set.mem_elements (enabledFeatures enabled features)
    rcases topologicalVisit_addFeature feature
        (set.elements (enabledFeatures enabled features)) with
      ⟨cause, collected, isVisit, illFormed⟩ | ⟨order, isVisit, wellFormed, ordered, all⟩
    · rw [isVisit]
      refine ⟨_, _, rfl, .dependencyIssue cause isNull ?_⟩
      exact fun wellFormed => illFormed (wellFormed.of_mem_iff fun node => (same node).symm)
    · have isEnabled : ∀ node, node ∈ order ↔ some node ∈ features ∧ enabled node = true :=
        fun node => (all node).trans ((same node).trans mem_enabledFeatures)
      have wellFormed := wellFormed.of_mem_iff same
      rcases called : callAll resultSetup order world with ⟨⟨node, cause⟩ | _, final⟩
      · refine ⟨_, final, ?_, .ran isNull wellFormed ordered isEnabled called⟩
        simp only [isVisit, called]
        rfl
      · refine ⟨_, final, ?_, .ran isNull wellFormed ordered isEnabled called⟩
        simp only [isVisit, called]
        rfl

/-- Flags are processed while the features are still being ordered: those that were reached before
an issue with the dependencies have changed the flags. -/
theorem processFlags_calls [DecidableEq Node] (set : UnorderedSet Node)
    (feature : Node → Feature Node) (process : Node → World → Except Cause Unit × World)
    (features : List (Option Node)) (flags : World) :
    ∃ result final, processFlags set feature process features flags = some (result, final) ∧
      (none ∈ features ∧ result = .error .nullFeature ∧ final = flags ∨
        none ∉ features ∧ ∃ order outcome, Schedule.Ordered (DependsOn feature) order ∧
          (∀ node ∈ order, some node ∈ features) ∧ callAll process order flags = (outcome, final) ∧
          (result = .ok () ↔ WellFormed feature features.reduceOption ∧ outcome = .ok ()) ∧
          (result = .ok () → ∀ node, some node ∈ features → node ∈ order)) := by
  rw [processFlags]
  by_cases isNull : none ∈ features
  · rw [if_pos isNull]
    exact ⟨_, _, rfl, .inl ⟨isNull, rfl, rfl⟩⟩
  rw [if_neg isNull]
  have same : ∀ node, node ∈ set.elements features.reduceOption ↔ some node ∈ features := by
    intro node
    rw [set.mem_elements, List.reduceOption_mem_iff]
  have wellFormed : WellFormed feature (set.elements features.reduceOption) ↔
      WellFormed feature features.reduceOption :=
    ⟨.of_mem_iff (set.mem_elements _), .of_mem_iff fun node => (set.mem_elements _ node).symm⟩
  rcases topologicalVisit_calls feature process (set.elements features.reduceOption) flags with
    ⟨result, final, order, outcome, isVisit, ordered, inside, called, succeeds, all⟩
  have listed : ∀ node ∈ order, some node ∈ features :=
    fun node isIn => (same node).mp (inside node isIn)
  rw [wellFormed] at succeeds
  rw [isVisit]
  cases result with
  | error cause =>
      refine ⟨_, final, rfl, .inr ⟨isNull, order, outcome, ordered, listed, called, ?_,
        fun isOk => by cases isOk⟩⟩
      exact ⟨fun isOk => (by cases isOk), fun both => by cases succeeds.mpr both⟩
  | ok _ =>
      refine ⟨_, final, rfl, .inr ⟨isNull, order, outcome, ordered, listed, called, ?_, ?_⟩⟩
      · exact ⟨fun _ => succeeds.mp rfl, fun _ => rfl⟩
      · exact fun _ node isFeature => all rfl node ((same node).mpr isFeature)

end Cuttlefish.Features
