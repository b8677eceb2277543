import Mathlib.Data.List.Induction
import Mathlib.Data.List.Nodup
import Mathlib.Logic.Relation

/-! # Orders that put dependencies first -/

namespace Cuttlefish.Schedule

variable {Node : Type} (Depends : Node → Node → Prop)

/-- Every node stands once in the list, and behind all that it depends on. -/
inductive Ordered : List Node → Prop
  | nil : Ordered []
  | concat {order : List Node} {node : Node} (before : Ordered order) (fresh : node ∉ order)
      (ready : ∀ needed, Depends node needed → needed ∈ order) : Ordered (order ++ [node])

variable {Depends} {order front back : List Node} {node needed : Node}

theorem Ordered.nodup (ordered : Ordered Depends order) : order.Nodup := by
  induction ordered with
  | nil => exact List.nodup_nil
  | concat before fresh ready induction =>
      rw [List.nodup_append]
      refine ⟨induction, List.nodup_singleton _, ?_⟩
      intro earlier isEarlier later isLater same
      rw [List.mem_singleton.mp isLater] at same
      exact fresh (same ▸ isEarlier)

theorem Ordered.left (ordered : Ordered Depends (front ++ back)) : Ordered Depends front := by
  induction back using List.reverseRecOn with
  | nil => rwa [List.append_nil] at ordered
  | append_singleton back last induction =>
      apply induction
      generalize whole : front ++ (back ++ [last]) = order at ordered
      cases ordered with
      | nil => simp at whole
      | concat before fresh ready =>
          rw [← List.append_assoc] at whole
          rwa [(List.append_inj' whole rfl).1]

theorem Ordered.earlier (ordered : Ordered Depends (front ++ node :: back))
    (depends : Depends node needed) : needed ∈ front := by
  have upTo : Ordered Depends (front ++ [node]) := by
    rw [← List.singleton_append, ← List.append_assoc] at ordered
    exact ordered.left
  generalize whole : front ++ [node] = order at upTo
  cases upTo with
  | nil => simp at whole
  | concat before fresh ready =>
      rcases List.append_inj' whole rfl with ⟨rfl, same⟩
      cases same
      exact ready needed depends

theorem Ordered.closed (ordered : Ordered Depends order) (isIn : node ∈ order)
    (depends : Depends node needed) : needed ∈ order := by
  rcases List.append_of_mem isIn with ⟨front, back, rfl⟩
  exact List.mem_append_left _ (ordered.earlier depends)

theorem Ordered.earlier_of_transGen (ordered : Ordered Depends (front ++ node :: back))
    (path : Relation.TransGen Depends node needed) : needed ∈ front := by
  induction path with
  | single depends => exact ordered.earlier depends
  | tail _ depends induction =>
      exact (Ordered.left ordered).closed induction depends

theorem Ordered.acyclic (ordered : Ordered Depends order) (isIn : node ∈ order) :
    ¬ Relation.TransGen Depends node node := by
  intro cycle
  rcases List.append_of_mem isIn with ⟨front, back, rfl⟩
  have again : node ∈ front := ordered.earlier_of_transGen cycle
  have apart := List.nodup_append.mp ordered.nodup
  exact apart.2.2 node again node List.mem_cons_self rfl

end Cuttlefish.Schedule
