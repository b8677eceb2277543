import Mathlib.Logic.Relation

/-! # Working off a queue

The nodes of a graph that are reached from those in a queue, each of them visited once. -/

namespace Cuttlefish.Worklist

variable {Node : Type} [DecidableEq Node] (next : Node → List Node)

def visit : (rounds : Nat) → (queue visited : List Node) → Option (List Node)
  | _, [], visited => some visited
  | 0, _ :: _, _ => none
  | rounds + 1, current :: queue, visited =>
      if current ∈ visited then visit rounds queue visited
      else visit rounds (queue ++ next current) (current :: visited)

def pending (visited : List Node) : List Node → Nat
  | [] => 0
  | node :: nodes =>
      (if node ∈ visited then 0 else (next node).length) + pending visited nodes

/-- All that is reached from the start, where only these nodes have others behind them. -/
def reached (nodes start : List Node) : List Node :=
  (visit next (start.length + pending next [] nodes) start []).getD []

variable {next} {queue visited result : List Node} {rounds : Nat}

/-! ## The rounds suffice -/

theorem pending_cons_le (nodes : List Node) (current : Node) :
    pending next (current :: visited) nodes ≤ pending next visited nodes := by
  induction nodes with
  | nil => exact Nat.le_refl _
  | cons node nodes induction =>
      rw [pending, pending]
      apply Nat.add_le_add _ induction
      split
      · exact Nat.zero_le _
      · rename_i fresh
        exact Nat.le_of_eq
          (if_neg fun before => fresh (List.mem_cons_of_mem current before)).symm

theorem pending_visited {nodes : List Node} {current : Node} (isNode : current ∈ nodes)
    (fresh : current ∉ visited) :
    (next current).length + pending next (current :: visited) nodes ≤
      pending next visited nodes := by
  induction nodes with
  | nil => cases isNode
  | cons node nodes induction =>
      rw [pending, pending]
      rcases List.mem_cons.mp isNode with rfl | later
      · rw [if_pos List.mem_cons_self, if_neg fresh, Nat.zero_add]
        exact Nat.add_le_add_left (pending_cons_le nodes current) _
      · have rest := induction later
        by_cases before : node ∈ visited
        · rw [if_pos before, if_pos (List.mem_cons_of_mem current before), Nat.zero_add,
            Nat.zero_add]
          exact rest
        · rw [if_neg before]
          split <;> omega

theorem visit_isSome {nodes : List Node} (complete : ∀ node, node ∉ nodes → next node = [])
    (enough : queue.length + pending next visited nodes ≤ rounds) :
    (visit next rounds queue visited).isSome := by
  induction rounds generalizing queue visited with
  | zero =>
      cases queue with
      | nil => rfl
      | cons current queue =>
          rw [List.length_cons] at enough
          omega
  | succ rounds induction =>
      cases queue with
      | nil => rfl
      | cons current queue =>
          rw [List.length_cons] at enough
          rw [visit]
          split
          · apply induction
            omega
          · rename_i fresh
            apply induction
            rw [List.length_append]
            by_cases isNode : current ∈ nodes
            · have less : (next current).length + pending next (current :: visited) nodes ≤
                  pending next visited nodes := pending_visited isNode fresh
              omega
            · have less : pending next (current :: visited) nodes ≤ pending next visited nodes :=
                pending_cons_le nodes current
              rw [complete current isNode, List.length_nil]
              omega

/-! ## What is visited -/

theorem visit_closed (isResult : visit next rounds queue visited = some result)
    (followed : ∀ node ∈ visited, ∀ child ∈ next node, child ∈ visited ∨ child ∈ queue) :
    (∀ node, node ∈ visited ∨ node ∈ queue → node ∈ result) ∧
      ∀ node ∈ result, ∀ child ∈ next node, child ∈ result := by
  induction rounds generalizing queue visited with
  | zero =>
      cases queue with
      | nil =>
          cases isResult
          simpa using followed
      | cons current queue => cases isResult
  | succ rounds induction =>
      cases queue with
      | nil =>
          cases isResult
          simpa using followed
      | cons current queue =>
          rw [visit] at isResult
          split at isResult
          · rename_i before
            have drop : ∀ node, node ∈ visited ∨ node ∈ current :: queue →
                node ∈ visited ∨ node ∈ queue := by
              rintro node (visited | waits)
              · exact .inl visited
              · rcases List.mem_cons.mp waits with rfl | waits
                · exact .inl before
                · exact .inr waits
            have rest := induction isResult fun node isVisited child isChild =>
              drop child (followed node isVisited child isChild)
            exact ⟨fun node given => rest.1 node (drop node given), rest.2⟩
          · have move : ∀ node, node ∈ visited ∨ node ∈ current :: queue →
                node ∈ current :: visited ∨ node ∈ queue ++ next current := by
              rintro node (visited | waits)
              · exact .inl (List.mem_cons_of_mem _ visited)
              · rcases List.mem_cons.mp waits with rfl | waits
                · exact .inl List.mem_cons_self
                · exact .inr (List.mem_append_left _ waits)
            have rest := induction isResult fun node isVisited child isChild => by
              rcases List.mem_cons.mp isVisited with rfl | before
              · exact .inr (List.mem_append_right _ isChild)
              · exact move child (followed node before child isChild)
            exact ⟨fun node given => rest.1 node (move node given), rest.2⟩

theorem visit_induction {P : Node → Prop}
    (isResult : visit next rounds queue visited = some result)
    (follows : ∀ node child, P node → child ∈ next node → P child)
    (before : ∀ node ∈ visited, P node) (waiting : ∀ node ∈ queue, P node) :
    ∀ node ∈ result, P node := by
  induction rounds generalizing queue visited with
  | zero =>
      cases queue with
      | nil =>
          cases isResult
          exact before
      | cons current queue => cases isResult
  | succ rounds induction =>
      cases queue with
      | nil =>
          cases isResult
          exact before
      | cons current queue =>
          rw [List.forall_mem_cons] at waiting
          rw [visit] at isResult
          split at isResult
          · exact induction isResult before waiting.2
          · apply induction isResult
            · exact List.forall_mem_cons.mpr ⟨waiting.1, before⟩
            · intro node isWaiting
              rcases List.mem_append.mp isWaiting with waits | child
              · exact waiting.2 node waits
              · exact follows current node waiting.1 child

theorem mem_reached {nodes start : List Node} (complete : ∀ node, node ∉ nodes → next node = [])
    {node : Node} :
    node ∈ reached next nodes start ↔
      ∃ root ∈ start, Relation.ReflTransGen (fun node child => child ∈ next node) root node := by
  rcases Option.isSome_iff_exists.mp
    (visit_isSome complete (Nat.le_refl (start.length + pending next [] nodes))) with
      ⟨result, isResult⟩
  rw [reached, isResult, Option.getD_some]
  constructor
  · intro inResult
    apply visit_induction isResult _ _ _ node inResult
    · rintro node child ⟨root, isRoot, path⟩ isChild
      exact ⟨root, isRoot, path.tail isChild⟩
    · intro node inNone
      cases inNone
    · intro node isRoot
      exact ⟨node, isRoot, .refl⟩
  · rintro ⟨root, isRoot, path⟩
    have closed := visit_closed isResult fun node inNone => by cases inNone
    induction path with
    | refl => exact closed.1 root (.inr isRoot)
    | tail _ isChild inResult => exact closed.2 _ inResult _ isChild

end Cuttlefish.Worklist
