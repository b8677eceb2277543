import Cuttlefish.Foundation.Schedule
import Mathlib.Data.List.Chain
import Mathlib.Data.List.Perm.Subperm
import Mathlib.Data.List.ReduceOption

/-! # Visiting features behind their dependencies

`Feature<Subclass>::TopologicalVisit`: a depth-first walk over a set of features that calls back
for each of them once the features it depends on have been called back for. -/

namespace Cuttlefish.Features

/-- What the virtual functions of a feature answer. Dependencies are pointers and may be null. -/
structure Feature (Node : Type) where
  name : String
  dependencies : List (Option Node)

inductive Status
  | unvisited
  | visiting
  | visited
  deriving DecidableEq, Repr

/-- The errors of the walk. `within` is the entry of a feature whose dependency failed. -/
inductive VisitError (Node Cause : Type)
  | missing (node : Node)
  | cycle (node : Node)
  | nullDependency (node : Node)
  | callback (node : Node) (cause : Cause)
  | within (node : Node) (cause : VisitError Node Cause)

variable {Node World Cause : Type}

/-- The messages of an error, the innermost first. -/
def VisitError.stack (feature : Node → Feature Node) (messages : Cause → List String) :
    VisitError Node Cause → List String
  | missing node =>
      ["Dependency edge to " ++ (feature node).name ++ " but it is not part of the feature " ++
        "graph. This feature is either disabled or not correctly registered."]
  | cycle node => ["Cycle detected while visiting " ++ (feature node).name]
  | nullDependency node => ["SetupFeature " ++ (feature node).name ++ " has a null dependency."]
  | callback node cause => messages cause ++ ["Callback error on " ++ (feature node).name]
  | within node cause =>
      cause.stack feature messages ++ ["Error detected while visiting " ++ (feature node).name]

structure Walk (Node World : Type) where
  featuresStatus : Node → Option Status
  world : World

abbrev Visited (Node World Cause : Type) : Type :=
  Except (VisitError Node Cause) Unit × Walk Node World

section Visit

variable [DecidableEq Node]

def Walk.mark (walk : Walk Node World) (node : Node) (status : Status) : Walk Node World where
  featuresStatus other := if other = node then some status else walk.featuresStatus other
  world := walk.world

def visitDependencies (visit : Node → Walk Node World → Option (Visited Node World Cause))
    (node : Node) : List (Option Node) → Walk Node World → Option (Visited Node World Cause)
  | [], walk => some (.ok (), walk)
  | none :: _, walk => some (.error (.nullDependency node), walk)
  | some dependency :: rest, walk =>
      match visit dependency walk with
      | none => none
      | some (.error cause, walk) => some (.error (.within node cause), walk)
      | some (.ok (), walk) => visitDependencies visit node rest walk

def callBack (callback : Node → World → Except Cause Unit × World) (node : Node)
    (walk : Walk Node World) : Visited Node World Cause :=
  match callback node walk.world with
  | (.ok (), world) => (.ok (), { walk with world := world })
  | (.error cause, world) => (.error (.callback node cause), { walk with world := world })

def visit (feature : Node → Feature Node) (callback : Node → World → Except Cause Unit × World) :
    (depth : Nat) → Node → Walk Node World → Option (Visited Node World Cause)
  | 0, _, _ => none
  | depth + 1, node, walk =>
      match walk.featuresStatus node with
      | none => some (.error (.missing node), walk)
      | some .visited => some (.ok (), walk)
      | some .visiting => some (.error (.cycle node), walk)
      | some .unvisited =>
          match visitDependencies (visit feature callback depth) node (feature node).dependencies
              (walk.mark node .visiting) with
          | some (.ok (), walk) => some (callBack callback node (walk.mark node .visited))
          | failed => failed

def visitFeatures (visit : Node → Walk Node World → Option (Visited Node World Cause)) :
    List Node → Walk Node World → Option (Visited Node World Cause)
  | [], walk => some (.ok (), walk)
  | node :: rest, walk =>
      match visit node walk with
      | some (.ok (), walk) => visitFeatures visit rest walk
      | failed => failed

/-- The features are in the order in which the set is iterated, each of them `UNVISITED`. -/
def topologicalVisit (feature : Node → Feature Node)
    (callback : Node → World → Except Cause Unit × World) (features : List Node) (world : World) :
    Option (Except (VisitError Node Cause) Unit × World) :=
  let unvisited : Walk Node World :=
    { featuresStatus node := if node ∈ features then some .unvisited else none
      world := world }
  (visitFeatures (visit feature callback (features.length + 1)) features unvisited).map
    fun visited => (visited.1, visited.2.world)

end Visit

/-! ## What the walk is to do -/

/-- The callbacks for a list of features, up to the first one that fails. -/
def callAll (callback : Node → World → Except Cause Unit × World) :
    List Node → World → Except (Node × Cause) Unit × World
  | [], world => (.ok (), world)
  | node :: rest, world =>
      match callback node world with
      | (.ok (), world) => callAll callback rest world
      | (.error cause, world) => (.error (node, cause), world)

variable (feature : Node → Feature Node)

def DependsOn (node needed : Node) : Prop := some needed ∈ (feature node).dependencies

/-- The features can be put in an order. -/
structure WellFormed (features : List Node) : Prop where
  registered : ∀ node ∈ features, ∀ needed, DependsOn feature node needed → needed ∈ features
  notNull : ∀ node ∈ features, none ∉ (feature node).dependencies
  acyclic : ∀ node ∈ features, ¬ Relation.TransGen (DependsOn feature) node node

/-- An error tells what is wrong: its entries follow dependencies from feature to feature, where
`path` has those that were being visited before, down to a feature that is not registered, is
visited already, has a null dependency or whose callback failed. -/
inductive Explains (features : List Node) :
    (path : List Node) → Node → VisitError Node Cause → Except (Node × Cause) Unit → Prop
  | missing {path : List Node} {node : Node} (absent : node ∉ features) :
      Explains features path node (.missing node) (.ok ())
  | cycle {path : List Node} {node : Node} (again : node ∈ path) :
      Explains features path node (.cycle node) (.ok ())
  | nullDependency {path : List Node} {node : Node} (isFeature : node ∈ features)
      (isNull : none ∈ (feature node).dependencies) :
      Explains features path node (.nullDependency node) (.ok ())
  | callback {path : List Node} {node : Node} (isFeature : node ∈ features) (cause : Cause) :
      Explains features path node (.callback node cause) (.error (node, cause))
  | within {path : List Node} {node needed : Node} {cause : VisitError Node Cause}
      {outcome : Except (Node × Cause) Unit} (isFeature : node ∈ features)
      (depends : DependsOn feature node needed)
      (inner : Explains features (node :: path) needed cause outcome) :
      Explains features path node (.within node cause) outcome

variable {feature} {callback : Node → World → Except Cause Unit × World}

theorem callAll_append (front back : List Node) {world between : World}
    (called : callAll callback front world = (.ok (), between)) :
    callAll callback (front ++ back) world = callAll callback back between := by
  induction front generalizing world with
  | nil =>
      cases called
      rfl
  | cons node rest induction =>
      rw [callAll] at called
      rw [List.cons_append, callAll]
      split at called
      · exact induction called
      · cases called

theorem Explains.not_wellFormed {features path : List Node} {node : Node}
    {error : VisitError Node Cause}
    (explains : Explains feature features path node error (.ok ()))
    (leads : ∀ earlier ∈ path, Relation.TransGen (DependsOn feature) earlier node)
    (isFeature : node ∈ features) : ¬ WellFormed feature features := by
  intro wellFormed
  generalize isOutcome : (Except.ok () : Except (Node × Cause) Unit) = outcome at explains
  induction explains with
  | missing absent => exact absent isFeature
  | cycle again => exact wellFormed.acyclic _ isFeature (leads _ again)
  | nullDependency _ isNull => exact wellFormed.notNull _ isFeature isNull
  | callback _ cause => cases isOutcome
  | within _ depends inner induction =>
      apply induction _ (wellFormed.registered _ isFeature _ depends) isOutcome
      intro earlier isEarlier
      rcases List.mem_cons.mp isEarlier with rfl | isEarlier
      · exact .single depends
      · exact (leads earlier isEarlier).tail depends

/-! ## How visits end -/

section Ends

variable {features order path done : List Node} {node : Node} {world : World}

structure Between (feature : Node → Feature Node) (features order path : List Node) : Prop where
  ordered : Schedule.Ordered (DependsOn feature) order
  visited : ∀ node ∈ order, node ∈ features ∧ none ∉ (feature node).dependencies
  nodup : path.Nodup
  visiting : ∀ node ∈ path, node ∈ features ∧ node ∉ order

theorem Between.length_le (between : Between feature features order path) :
    order.length + path.length ≤ features.length := by
  rw [← List.length_append]
  refine (List.subperm_of_subset ?_ ?_).length_le
  · rw [List.nodup_append]
    refine ⟨between.ordered.nodup, between.nodup, ?_⟩
    intro earlier isEarlier later isLater same
    exact (between.visiting later isLater).2 (same ▸ isEarlier)
  · intro other isIn
    rcases List.mem_append.mp isIn with inOrder | inPath
    · exact (between.visited other inOrder).1
    · exact (between.visiting other inPath).1

theorem Between.enter (between : Between feature features order path) (isFeature : node ∈ features)
    (fresh : node ∉ order) (notAgain : node ∉ path) :
    Between feature features order (node :: path) where
  ordered := between.ordered
  visited := between.visited
  nodup := List.nodup_cons.mpr ⟨notAgain, between.nodup⟩
  visiting := List.forall_mem_cons.mpr ⟨⟨isFeature, fresh⟩, between.visiting⟩

theorem Between.leave (between : Between feature features order (node :: path))
    (ready : ∀ needed, DependsOn feature node needed → needed ∈ order)
    (notNull : none ∉ (feature node).dependencies) :
    Between feature features (order ++ [node]) path where
  ordered := .concat between.ordered (between.visiting node List.mem_cons_self).2 ready
  visited := by
    intro other isIn
    rcases List.mem_append.mp isIn with inOrder | isNode
    · exact between.visited other inOrder
    · rw [List.mem_singleton.mp isNode]
      exact ⟨(between.visiting node List.mem_cons_self).1, notNull⟩
  nodup := (List.nodup_cons.mp between.nodup).2
  visiting := by
    intro other inPath
    have visiting := between.visiting other (List.mem_cons_of_mem node inPath)
    refine ⟨visiting.1, ?_⟩
    intro isIn
    rcases List.mem_append.mp isIn with inOrder | isNode
    · exact visiting.2 inOrder
    · rw [List.mem_singleton.mp isNode] at inPath
      exact (List.nodup_cons.mp between.nodup).1 inPath

theorem Between.wellFormed (between : Between feature features order path)
    (all : ∀ node ∈ features, node ∈ order) : WellFormed feature features where
  registered node isFeature needed depends :=
    (between.visited needed (between.ordered.closed (all node isFeature) depends)).1
  notNull node isFeature := (between.visited node (all node isFeature)).2
  acyclic node isFeature := between.ordered.acyclic (all node isFeature)

variable [DecidableEq Node]

/-- The map when the callbacks of `order` have been made and those of `path` are waited for. -/
def statusOf (features order path : List Node) (node : Node) : Option Status :=
  if node ∈ order then some .visited
  else if node ∈ path then some .visiting
  else if node ∈ features then some .unvisited
  else none

/-- How a visit ends that starts between two others: the targets are visited, or there is an
error of the kind that is told. -/
inductive Ends (feature : Node → Feature Node) (callback : Node → World → Except Cause Unit × World)
    (features order path targets : List Node) (world : World)
    (Tells : VisitError Node Cause → Except (Node × Cause) Unit → Prop) :
    Visited Node World Cause → Prop
  | ok {done : List Node} {final : World} (between : Between feature features (order ++ done) path)
      (reached : ∀ target ∈ targets, target ∈ order ++ done)
      (called : callAll callback done world = (.ok (), final)) :
      Ends feature callback features order path targets world Tells
        (.ok (), ⟨statusOf features (order ++ done) path, final⟩)
  | failed {done : List Node} {error : VisitError Node Cause}
      {outcome : Except (Node × Cause) Unit} {walk : Walk Node World}
      (ordered : Schedule.Ordered (DependsOn feature) (order ++ done))
      (visited : ∀ node ∈ order ++ done, node ∈ features ∧ none ∉ (feature node).dependencies)
      (called : callAll callback done world = (outcome, walk.world)) (tells : Tells error outcome) :
      Ends feature callback features order path targets world Tells (.error error, walk)

theorem mark_visiting (fresh : node ∉ order) :
    (Walk.mark ⟨statusOf features order path, world⟩ node .visiting) =
      ⟨statusOf features order (node :: path), world⟩ := by
  rw [Walk.mark]
  congr 1
  funext other
  by_cases same : other = node
  · subst same
    simp [statusOf, fresh]
  · simp [statusOf, same]

theorem mark_visited :
    (Walk.mark ⟨statusOf features order (node :: path), world⟩ node .visited) =
      ⟨statusOf features (order ++ [node]) path, world⟩ := by
  rw [Walk.mark]
  congr 1
  funext other
  by_cases same : other = node
  · subst same
    simp [statusOf]
  · simp [statusOf, same]

variable {targets more : List Node}
  {Tells Other : VisitError Node Cause → Except (Node × Cause) Unit → Prop}

theorem Ends.ok_nil (between : Between feature features order path)
    (reached : ∀ target ∈ targets, target ∈ order) :
    Ends feature callback features order path targets world Tells
      (.ok (), ⟨statusOf features order path, world⟩) := by
  rw [← List.append_nil order] at between reached
  have ends : Ends feature callback features order path targets world Tells
      (.ok (), ⟨statusOf features (order ++ []) path, world⟩) := .ok between reached rfl
  rwa [List.append_nil] at ends

theorem Ends.failed_nil {status : Node → Option Status} {error : VisitError Node Cause}
    {inner : List Node} (between : Between feature features order inner)
    (tells : Tells error (.ok ())) :
    Ends feature callback features order path targets world Tells (.error error, ⟨status, world⟩) := by
  rw [← List.append_nil order] at between
  exact .failed between.ordered between.visited rfl tells

theorem Ends.after {final : World} {visited : Visited Node World Cause}
    (called : callAll callback done world = (.ok (), final))
    (reached : ∀ target ∈ targets, target ∈ order ++ done)
    (ends : Ends feature callback features (order ++ done) path more final Tells visited) :
    Ends feature callback features order path (targets ++ more) world Tells visited := by
  cases ends with
  | @ok second last between reachedMore calledMore =>
      have whole : callAll callback (done ++ second) world = (.ok (), last) := by
        rw [callAll_append done second called]
        exact calledMore
      rw [List.append_assoc] at between reachedMore ⊢
      refine .ok between ?_ whole
      intro target isTarget
      rcases List.mem_append.mp isTarget with first | later
      · rw [← List.append_assoc]
        exact List.mem_append_left second (reached target first)
      · exact reachedMore target later
  | @failed second error outcome walk ordered visited calledMore tells =>
      rw [List.append_assoc] at ordered visited
      refine .failed ordered visited ?_ tells
      rw [callAll_append done second called]
      exact calledMore

theorem Ends.imp {visited : Visited Node World Cause}
    (tells : ∀ error outcome, Tells error outcome → Other error outcome)
    (ends : Ends feature callback features order path targets world Tells visited) :
    Ends feature callback features order path targets world Other visited := by
  cases ends with
  | ok between reached called => exact .ok between reached called
  | failed ordered visited called told => exact .failed ordered visited called (tells _ _ told)

def VisitsEnd (feature : Node → Feature Node) (callback : Node → World → Except Cause Unit × World)
    (features : List Node) (depth : Nat)
    (visit : Node → Walk Node World → Option (Visited Node World Cause)) : Prop :=
  ∀ (order path : List Node) (node : Node) (world : World),
    Between feature features order path → features.length < order.length + path.length + depth →
      ∃ visited, visit node ⟨statusOf features order path, world⟩ = some visited ∧
        Ends feature callback features order path [node] world
          (Explains feature features path node) visited

theorem visitDependencies_ends {depth : Nat}
    {visit : Node → Walk Node World → Option (Visited Node World Cause)}
    (visitsEnd : VisitsEnd feature callback features depth visit)
    (dependencies : List (Option Node)) (world : World)
    (listed : ∀ dependency ∈ dependencies, dependency ∈ (feature node).dependencies)
    (between : Between feature features order (node :: path))
    (deep : features.length < order.length + (node :: path).length + depth) :
    ∃ visited, visitDependencies visit node dependencies
        ⟨statusOf features order (node :: path), world⟩ = some visited ∧
      Ends feature callback features order (node :: path) dependencies.reduceOption world
        (Explains feature features path node) visited ∧
      (visited.1 = .ok () → none ∉ dependencies) := by
  induction dependencies generalizing order world with
  | nil =>
      refine ⟨_, rfl, ?_, fun _ => List.not_mem_nil⟩
      exact .ok_nil between fun target isTarget => absurd isTarget List.not_mem_nil
  | cons dependency rest induction =>
      rw [List.forall_mem_cons] at listed
      have isFeature : node ∈ features := (between.visiting node List.mem_cons_self).1
      cases dependency with
      | none =>
          refine ⟨_, rfl, ?_, fun isOk => by cases isOk⟩
          exact .failed_nil between (.nullDependency isFeature listed.1)
      | some needed =>
          rcases visitsEnd order (node :: path) needed world between deep with
            ⟨visited, isVisited, ends⟩
          rw [List.reduceOption_cons_of_some]
          cases ends with
          | @ok done final betweenNow reached called =>
              have deepNow : features.length <
                  (order ++ done).length + (node :: path).length + depth := by
                rw [List.length_append]
                omega
              rcases induction final listed.2 betweenNow deepNow with
                ⟨final, isFinal, endsRest, notNull⟩
              refine ⟨final, ?_, .after called reached endsRest, ?_⟩
              · rw [visitDependencies, isVisited]
                exact isFinal
              · intro isOk isNull
                rcases List.mem_cons.mp isNull with isNone | isNull
                · cases isNone
                · exact notNull isOk isNull
          | @failed done error outcome walk ordered inside called tells =>
              refine ⟨(.error (.within node error), walk), ?_, ?_, fun isOk => by cases isOk⟩
              · rw [visitDependencies, isVisited]
              · exact .failed ordered inside called (.within isFeature listed.1 tells)

theorem visit_ends (feature : Node → Feature Node)
    (callback : Node → World → Except Cause Unit × World) (depth : Nat) :
    VisitsEnd feature callback features depth (visit feature callback depth) := by
  induction depth with
  | zero =>
      intro order path node world between deep
      have fits := between.length_le
      omega
  | succ depth induction =>
      intro order path node world between deep
      by_cases inOrder : node ∈ order
      · refine ⟨(.ok (), ⟨statusOf features order path, world⟩), ?_, ?_⟩
        · simp [visit, statusOf, inOrder]
        · exact .ok_nil between fun target isTarget => List.mem_singleton.mp isTarget ▸ inOrder
      by_cases inPath : node ∈ path
      · refine ⟨(.error (.cycle node), ⟨statusOf features order path, world⟩), ?_, ?_⟩
        · simp [visit, statusOf, inOrder, inPath]
        · exact .failed_nil between (.cycle inPath)
      by_cases isFeature : node ∈ features
      · have status : statusOf features order path node = some .unvisited := by
          simp [statusOf, inOrder, inPath, isFeature]
        have betweenNow := between.enter isFeature inOrder inPath
        have deepNow : features.length < order.length + (node :: path).length + depth := by
          rw [List.length_cons]
          omega
        rcases visitDependencies_ends induction (feature node).dependencies world
          (fun _ isListed => isListed) betweenNow deepNow with
          ⟨visited, isVisited, ends, notNull⟩
        have isVisit : visit feature callback (depth + 1) node
            ⟨statusOf features order path, world⟩ =
              match visitDependencies (visit feature callback depth) node
                  (feature node).dependencies ⟨statusOf features order (node :: path), world⟩ with
              | some (.ok (), walk) => some (callBack callback node (walk.mark node .visited))
              | failed => failed := by
          simp only [visit, status, mark_visiting inOrder]
        rw [isVisit, isVisited]
        cases ends with
        | @ok done final betweenNow reached called =>
            have ready : ∀ needed, DependsOn feature node needed → needed ∈ order ++ done :=
              fun needed depends => reached needed (List.reduceOption_mem_iff.mpr depends)
            have left := betweenNow.leave ready (notNull rfl)
            refine ⟨_, rfl, ?_⟩
            rw [mark_visited, List.append_assoc]
            rw [List.append_assoc] at left
            have last : callAll callback (done ++ [node]) world = callAll callback [node] final :=
              callAll_append done [node] called
            rcases isCalled : callback node final with ⟨cause | _, world⟩
            · rw [callAll, isCalled] at last
              rw [callBack, isCalled]
              exact .failed left.ordered left.visited last (.callback isFeature cause)
            · rw [callAll, isCalled] at last
              rw [callBack, isCalled]
              refine .ok left ?_ last
              intro target isTarget
              rw [List.mem_singleton.mp isTarget]
              simp
        | @failed done error outcome walk ordered inside called tells =>
            exact ⟨_, rfl, .failed ordered inside called tells⟩
      · refine ⟨(.error (.missing node), ⟨statusOf features order path, world⟩), ?_, ?_⟩
        · simp [visit, statusOf, inOrder, inPath, isFeature]
        · exact .failed_nil between (.missing isFeature)

theorem visitFeatures_ends {depth : Nat}
    {visit : Node → Walk Node World → Option (Visited Node World Cause)}
    (visitsEnd : VisitsEnd feature callback features depth visit) (nodes : List Node) (world : World)
    (between : Between feature features order []) (deep : features.length < order.length + depth) :
    ∃ visited, visitFeatures visit nodes ⟨statusOf features order [], world⟩ = some visited ∧
      Ends feature callback features order [] nodes world
        (fun error outcome => ∃ root ∈ nodes, Explains feature features [] root error outcome)
        visited := by
  induction nodes generalizing order world with
  | nil =>
      refine ⟨_, rfl, ?_⟩
      exact .ok_nil between fun target isTarget => absurd isTarget List.not_mem_nil
  | cons node rest induction =>
      rcases visitsEnd order [] node world between deep with ⟨visited, isVisited, ends⟩
      cases ends with
      | @ok done final betweenNow reached called =>
          have deepNow : features.length < (order ++ done).length + depth := by
            rw [List.length_append]
            omega
          rcases induction final betweenNow deepNow with ⟨last, isLast, endsRest⟩
          refine ⟨last, ?_, ?_⟩
          · rw [visitFeatures, isVisited]
            exact isLast
          · apply Ends.imp _ (.after called reached endsRest)
            rintro error outcome ⟨root, isRoot, explains⟩
            exact ⟨root, List.mem_cons_of_mem node isRoot, explains⟩
      | @failed done error outcome walk ordered visited called tells =>
          refine ⟨(.error error, walk), ?_, ?_⟩
          · rw [visitFeatures, isVisited]
          · exact .failed ordered visited called ⟨node, List.mem_cons_self, tells⟩

theorem topologicalVisit_ends (feature : Node → Feature Node)
    (callback : Node → World → Except Cause Unit × World) (features : List Node) (world : World) :
    ∃ walk : Visited Node World Cause,
      topologicalVisit feature callback features world = some (walk.1, walk.2.world) ∧
        Ends feature callback features [] [] features world
          (fun error outcome => ∃ root ∈ features, Explains feature features [] root error outcome)
          walk := by
  have between : Between feature features [] [] :=
    { ordered := .nil
      visited := fun node isIn => absurd isIn List.not_mem_nil
      nodup := List.nodup_nil
      visiting := fun node isIn => absurd isIn List.not_mem_nil }
  have deep : features.length < ([] : List Node).length + (features.length + 1) := by
    rw [List.length_nil]
    omega
  rcases visitFeatures_ends (visit_ends feature callback _) features world between deep with ⟨visited, isVisited, ends⟩
  refine ⟨visited, ?_, ends⟩
  have unvisited : statusOf features [] [] =
      fun node => if node ∈ features then some .unvisited else none := by
    funext node
    simp [statusOf]
  rw [topologicalVisit, ← unvisited, isVisited]
  rfl

/-- In whichever order the sets are iterated, the walk comes to an end. It has called back for
features with their dependencies first, for none of them twice, and has stopped at a callback that
failed. It succeeds just when there is nothing wrong with the graph and no callback failed, and has
called back for every feature then. -/
theorem topologicalVisit_calls (feature : Node → Feature Node)
    (callback : Node → World → Except Cause Unit × World) (features : List Node) (world : World) :
    ∃ result final order outcome,
      topologicalVisit feature callback features world = some (result, final) ∧
        Schedule.Ordered (DependsOn feature) order ∧ (∀ node ∈ order, node ∈ features) ∧
        callAll callback order world = (outcome, final) ∧
        (result = .ok () ↔ WellFormed feature features ∧ outcome = .ok ()) ∧
        (result = .ok () → ∀ node ∈ features, node ∈ order) := by
  rcases topologicalVisit_ends feature callback features world with ⟨walk, isWalk, ends⟩
  cases ends with
  | @ok order final between reached called =>
      rw [List.nil_append] at between reached
      refine ⟨_, _, order, .ok (), isWalk, between.ordered,
        fun node isIn => (between.visited node isIn).1, called, ?_, fun _ => reached⟩
      exact ⟨fun _ => ⟨between.wellFormed reached, rfl⟩, fun _ => rfl⟩
  | @failed order error outcome walk ordered visited called tells =>
      rw [List.nil_append] at ordered visited
      refine ⟨_, _, order, outcome, isWalk, ordered, fun node isIn => (visited node isIn).1, called,
        ?_, fun isOk => by cases isOk⟩
      constructor
      · intro isOk
        cases isOk
      · rintro ⟨wellFormed, rfl⟩
        rcases tells with ⟨root, isRoot, explains⟩
        have notWellFormed := explains.not_wellFormed
          (fun earlier isEarlier => absurd isEarlier List.not_mem_nil) isRoot
        exact absurd wellFormed notWellFormed

end Ends

/-! ## What the errors say -/

/-- The messages about the feature at which a visit failed, where those of `path` were being
visited and the callbacks ended in `outcome`. -/
inductive Fault (feature : Node → Feature Node) (messages : Cause → List String)
    (features path : List Node) (node : Node) :
    (outcome : Except (Node × Cause) Unit) → List String → Prop
  | missing (absent : node ∉ features) : Fault feature messages features path node (.ok ())
      ["Dependency edge to " ++ (feature node).name ++ " but it is not part of the feature " ++
        "graph. This feature is either disabled or not correctly registered."]
  | cycle (again : node ∈ path) : Fault feature messages features path node (.ok ())
      ["Cycle detected while visiting " ++ (feature node).name]
  | nullDependency (isNull : none ∈ (feature node).dependencies) :
      Fault feature messages features path node (.ok ())
        ["SetupFeature " ++ (feature node).name ++ " has a null dependency."]
  | callback (cause : Cause) : Fault feature messages features path node (.error (node, cause))
      (messages cause ++ ["Callback error on " ++ (feature node).name])

theorem Explains.stack (messages : Cause → List String) {features path : List Node} {node : Node}
    {error : VisitError Node Cause} {outcome : Except (Node × Cause) Unit}
    (explains : Explains feature features path node error outcome) :
    ∃ chain culprit fault, (chain ++ [culprit]).head? = some node ∧
      (chain ++ [culprit]).IsChain (DependsOn feature) ∧ (∀ visiting ∈ chain, visiting ∈ features) ∧
      Fault feature messages features (chain.reverse ++ path) culprit outcome fault ∧
      error.stack feature messages = fault ++ chain.reverse.map
        fun visiting => "Error detected while visiting " ++ (feature visiting).name := by
  have none_in : ∀ visiting ∈ ([] : List Node), visiting ∈ features :=
    fun visiting isIn => absurd isIn List.not_mem_nil
  induction explains with
  | missing absent => exact ⟨[], _, _, rfl, .singleton _, none_in, .missing absent, rfl⟩
  | cycle again => exact ⟨[], _, _, rfl, .singleton _, none_in, .cycle again, rfl⟩
  | nullDependency _ isNull =>
      exact ⟨[], _, _, rfl, .singleton _, none_in, .nullDependency isNull, rfl⟩
  | callback _ cause =>
      exact ⟨[], _, _, rfl, .singleton _, none_in, .callback cause, by simp [VisitError.stack]⟩
  | @within path node needed cause outcome isFeature depends inner induction =>
      rcases induction with ⟨chain, culprit, fault, starts, isChain, visiting, isFault, isStack⟩
      refine ⟨node :: chain, culprit, fault, rfl, ?_, List.forall_mem_cons.mpr ⟨isFeature, visiting⟩,
        ?_, ?_⟩
      · rw [List.cons_append, List.isChain_cons]
        refine ⟨?_, isChain⟩
        intro next isNext
        rw [starts] at isNext
        cases isNext
        exact depends
      · rwa [List.reverse_cons, List.append_assoc, List.singleton_append]
      · rw [VisitError.stack, isStack]
        simp

/-- The messages of an error lead from one of the features along dependencies to the one that is at
fault, and tell what is wrong there: it is not registered, is being visited already, has a null
dependency or was the last one that was called back for, which failed. -/
theorem topologicalVisit_error [DecidableEq Node]
    {callback : Node → World → Except Cause Unit × World} {features : List Node}
    {world final : World} {error : VisitError Node Cause} (messages : Cause → List String)
    (failed : topologicalVisit feature callback features world = some (.error error, final)) :
    ∃ order outcome, Schedule.Ordered (DependsOn feature) order ∧ (∀ node ∈ order, node ∈ features) ∧
      callAll callback order world = (outcome, final) ∧
      ∃ root ∈ features, ∃ chain culprit fault, (chain ++ [culprit]).head? = some root ∧
        (chain ++ [culprit]).IsChain (DependsOn feature) ∧
        (∀ visiting ∈ chain, visiting ∈ features) ∧
        Fault feature messages features chain culprit outcome fault ∧
        error.stack feature messages = fault ++ chain.reverse.map
          fun visiting => "Error detected while visiting " ++ (feature visiting).name := by
  rcases topologicalVisit_ends feature callback features world with ⟨walk, isWalk, ends⟩
  rw [failed, Option.some.injEq] at isWalk
  cases ends with
  | ok => cases isWalk
  | @failed order _ outcome _ ordered visited called tells =>
      cases isWalk
      rw [List.nil_append] at ordered visited
      rcases tells with ⟨root, isRoot, explains⟩
      rcases explains.stack messages with
        ⟨chain, culprit, fault, starts, isChain, visiting, isFault, isStack⟩
      refine ⟨order, outcome, ordered, fun node isIn => (visited node isIn).1, called, root, isRoot,
        chain, culprit, fault, starts, isChain, visiting, ?_, isStack⟩
      cases isFault with
      | missing absent => exact .missing absent
      | cycle again => exact .cycle (by simpa using again)
      | nullDependency isNull => exact .nullDependency isNull
      | callback cause => exact .callback cause

def mutual_ : Bool → Feature Bool
  | false => ⟨"first", [some true]⟩
  | true => ⟨"second", [some false]⟩

theorem topologicalVisit_error_cycle : ∃ order outcome,
    Schedule.Ordered (DependsOn mutual_) order ∧ (∀ node ∈ order, node ∈ [false, true]) ∧
      callAll (fun (_ : Bool) world => ((.ok () : Except Unit Unit), world)) order () =
        (outcome, ()) ∧
      ∃ root ∈ [false, true], ∃ chain culprit fault, (chain ++ [culprit]).head? = some root ∧
        (chain ++ [culprit]).IsChain (DependsOn mutual_) ∧
        (∀ visiting ∈ chain, visiting ∈ [false, true]) ∧
        Fault mutual_ (fun _ : Unit => []) [false, true] chain culprit outcome fault ∧
        ["Cycle detected while visiting first", "Error detected while visiting second",
          "Error detected while visiting first"] = fault ++ chain.reverse.map
            fun visiting => "Error detected while visiting " ++ (mutual_ visiting).name := by
  have failed : topologicalVisit mutual_ (fun _ world => (.ok (), world)) [false, true] () =
      some (.error (.within false (.within true (.cycle false)) : VisitError Bool Unit), ()) := rfl
  exact topologicalVisit_error _ failed

end Cuttlefish.Features
