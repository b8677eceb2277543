import Mathlib.Data.List.Basic

/-! # Queues that share a semaphore

`Multiplexer` hands the items of several bounded queues to one consumer, those of the first queue
first, and counts them with a semaphore. -/

namespace Cuttlefish.Concurrency

variable {Item : Type}

/-! ## Bounded queues -/

/-- No limit is a `maxElements` of 0. -/
structure ThreadSafeQueue (Item : Type) where
  items : List Item
  maxElements : Nat
  maxElementsHandler : List Item → List Item

namespace ThreadSafeQueue

def isFull (queue : ThreadSafeQueue Item) : Bool :=
  queue.maxElements ≠ 0 && queue.maxElements = queue.items.length

/-- Whether there is room behind the handler. -/
def dropItemsIfAtCapacity (queue : ThreadSafeQueue Item) : Bool × ThreadSafeQueue Item :=
  let queue :=
    if queue.isFull then { queue with items := queue.maxElementsHandler queue.items } else queue
  (!queue.isFull, queue)

def push (queue : ThreadSafeQueue Item) (item : Item) : Bool × ThreadSafeQueue Item :=
  let dropped := queue.dropItemsIfAtCapacity
  if dropped.1 then (true, { dropped.2 with items := dropped.2.items ++ [item] })
  else (false, dropped.2)

def IgnoresNew (queue : ThreadSafeQueue Item) : Prop :=
  ∀ items, queue.maxElementsHandler items = items

def bound (queue : ThreadSafeQueue Item) : Nat × (List Item → List Item) :=
  (queue.maxElements, queue.maxElementsHandler)

@[simp] theorem bound_push (queue : ThreadSafeQueue Item) (item : Item) :
    (queue.push item).2.bound = queue.bound := by
  rw [push, dropItemsIfAtCapacity]
  repeat' split
  all_goals rfl

theorem push_eq {queue : ThreadSafeQueue Item} (ignores : queue.IgnoresNew) (item : Item) :
    queue.push item =
      if queue.isFull then (false, queue) else (true, { queue with items := queue.items ++ [item] }) := by
  rcases queue with ⟨items, maxElements, handler⟩
  have same : handler items = items := ignores items
  by_cases full : isFull ⟨items, maxElements, handler⟩ = true
  · simp [push, dropItemsIfAtCapacity, full, same]
  · simp [push, dropItemsIfAtCapacity, full]

theorem length_push {queue : ThreadSafeQueue Item}
    (drops : ∀ items, (queue.maxElementsHandler items).Sublist items)
    (limited : queue.maxElements ≠ 0) (within : queue.items.length ≤ queue.maxElements)
    (item : Item) : (queue.push item).2.items.length ≤ queue.maxElements := by
  rcases queue with ⟨items, maxElements, handler⟩
  have shorter := (drops items).length_le
  by_cases full : maxElements = items.length
  · by_cases stillFull : maxElements = (handler items).length
    · simp [push, dropItemsIfAtCapacity, isFull, limited, ← full, ← stillFull]
    · have room : (handler items).length < maxElements := by
        simp only at shorter
        omega
      simp [push, dropItemsIfAtCapacity, isFull, limited, ← full, stillFull]
      omega
  · have room : items.length < maxElements := by
      simp only at within
      omega
    simp [push, dropItemsIfAtCapacity, isFull, full]
    omega

end ThreadSafeQueue

/-! ## The multiplexer -/

/-- `Push` posts the semaphore behind its push to a queue; `unposted` counts the threads between the
two. A failed `CHECK` ends the process. -/
structure Multiplexer (Item : Type) where
  queues : List (ThreadSafeQueue Item)
  semItems : Nat
  unposted : Nat
  alive : Bool

inductive Action (Item : Type)
  | push (index : Nat) (item : Item)
  | semPost
  | pop

/-- What comes of an action. `blocked` are a `SemWait` that waits and actions nobody is about to
take. -/
inductive Answer (Item : Type)
  | pushed (accepted : Bool)
  | posted
  | popped (index : Nat) (item : Item)
  | checkFailed
  | blocked

namespace Multiplexer

def selectQueue : List (ThreadSafeQueue Item) → Option (Nat × Item × List (ThreadSafeQueue Item))
  | [] => none
  | queue :: rest =>
      match queue.items with
      | item :: items => some (0, item, { queue with items := items } :: rest)
      | [] => (selectQueue rest).map fun selected => (selected.1 + 1, selected.2.1, queue :: selected.2.2)

def capacity : Nat := 30000

def call (multiplexer : Multiplexer Item) : Action Item → Answer Item × Multiplexer Item
  | .push index item =>
      if multiplexer.alive then
        match multiplexer.queues[index]? with
        | none => (.checkFailed, { multiplexer with alive := false })
        | some queue =>
            (.pushed (queue.push item).1,
              { multiplexer with
                queues := multiplexer.queues.set index (queue.push item).2
                unposted := multiplexer.unposted + 1 })
      else (.blocked, multiplexer)
  | .semPost =>
      if multiplexer.alive ∧ multiplexer.unposted ≠ 0 ∧ multiplexer.semItems < capacity then
        (.posted, { multiplexer with
          semItems := multiplexer.semItems + 1
          unposted := multiplexer.unposted - 1 })
      else (.blocked, multiplexer)
  | .pop =>
      if multiplexer.alive ∧ multiplexer.semItems ≠ 0 then
        match selectQueue multiplexer.queues with
        | none => (.checkFailed,
            { multiplexer with semItems := multiplexer.semItems - 1, alive := false })
        | some (index, item, queues) => (.popped index item,
            { multiplexer with queues := queues, semItems := multiplexer.semItems - 1 })
      else (.blocked, multiplexer)

/-- The answers to actions that the threads take one after another. -/
def perform : Multiplexer Item → List (Action Item) → List (Answer Item) × Multiplexer Item
  | multiplexer, [] => ([], multiplexer)
  | multiplexer, action :: rest =>
      let called := multiplexer.call action
      (called.1 :: (perform called.2 rest).1, (perform called.2 rest).2)

def ignoringNew (sizes : List Nat) : Multiplexer Item where
  queues := sizes.map fun size => ⟨[], size, fun items => items⟩
  semItems := 0
  unposted := 0
  alive := true

def run (sizes : List Nat) (actions : List (Action Item)) : List (Answer Item) × Multiplexer Item :=
  (ignoringNew sizes).perform actions

/-! ## First in, first out -/

def starting (bounds : List (Nat × (List Item → List Item))) : Multiplexer Item where
  queues := bounds.map fun bound => ⟨[], bound.1, bound.2⟩
  semItems := 0
  unposted := 0
  alive := true

variable {multiplexer : Multiplexer Item}

def acceptedItem (index : Nat) : Action Item → Answer Item → List Item
  | .push at_ item, .pushed true => if at_ = index then [item] else []
  | _, _ => []

def acceptedItems (index : Nat) : List (Action Item) → List (Answer Item) → List Item
  | action :: actions, answer :: answers =>
      acceptedItem index action answer ++ acceptedItems index actions answers
  | _, _ => []

def poppedItem (index : Nat) : Answer Item → List Item
  | .popped from_ item => if from_ = index then [item] else []
  | _ => []

def poppedItems (index : Nat) (answers : List (Answer Item)) : List Item :=
  answers.flatMap (poppedItem index)

def itemsAt (queues : List (ThreadSafeQueue Item)) (index : Nat) : List Item :=
  (queues[index]?.map ThreadSafeQueue.items).getD []

def IgnoresNew (multiplexer : Multiplexer Item) : Prop :=
  ∀ queue ∈ multiplexer.queues, queue.IgnoresNew

def allItems : List (ThreadSafeQueue Item) → List Item
  | [] => []
  | queue :: rest => queue.items ++ allItems rest

/-- The item that is selected is gone from its queue and from all items, of which it was the first. -/
structure Takes (queues : List (ThreadSafeQueue Item)) (index : Nat) (item : Item)
    (rest : List (ThreadSafeQueue Item)) : Prop where
  length : rest.length = queues.length
  allItems : allItems queues = item :: Multiplexer.allItems rest
  itemsAt : itemsAt queues index = item :: Multiplexer.itemsAt rest index
  others : ∀ other, other ≠ index → Multiplexer.itemsAt rest other = Multiplexer.itemsAt queues other
  bounds : rest.map ThreadSafeQueue.bound = queues.map ThreadSafeQueue.bound

theorem takes_of_selectQueue {queues rest : List (ThreadSafeQueue Item)} {index : Nat} {item : Item}
    (selected : selectQueue queues = some (index, item, rest)) : Takes queues index item rest := by
  induction queues generalizing rest index with
  | nil => cases selected
  | cons queue queues induction =>
      rw [selectQueue] at selected
      cases isItems : queue.items with
      | cons first items =>
          rw [isItems] at selected
          cases selected
          refine ⟨rfl, by simp [allItems, isItems], by simp [itemsAt, isItems], ?_, rfl⟩
          intro other different
          rcases Nat.exists_eq_succ_of_ne_zero different with ⟨other, rfl⟩
          simp [itemsAt]
      | nil =>
          rw [isItems] at selected
          rcases Option.map_eq_some_iff.mp selected with ⟨⟨inner, found, behind⟩, isInner, same⟩
          cases same
          have takes := induction isInner
          refine ⟨by simp [takes.length], by simp [allItems, isItems, takes.allItems], ?_, ?_,
            by simp [takes.bounds]⟩
          · simpa [itemsAt] using takes.itemsAt
          · intro other different
            cases other with
            | zero => rfl
            | succ other => simpa [itemsAt] using takes.others other (by omega)

theorem itemsAt_set {queues : List (ThreadSafeQueue Item)} {index : Nat}
    {queue next : ThreadSafeQueue Item} (isQueue : queues[index]? = some queue) (other : Nat) :
    itemsAt (queues.set index next) other =
      if index = other then next.items else itemsAt queues other := by
  rw [itemsAt, List.getElem?_set]
  by_cases same : index = other
  · subst same
    have bound := (List.getElem?_eq_some_iff.mp isQueue).1
    simp [bound]
  · simp [same, itemsAt]

theorem bounds_call (multiplexer : Multiplexer Item) (action : Action Item) :
    (multiplexer.call action).2.queues.map ThreadSafeQueue.bound =
      multiplexer.queues.map ThreadSafeQueue.bound := by
  cases action with
  | push index item =>
      rw [call]
      split
      · cases isQueue : multiplexer.queues[index]? with
        | none => rfl
        | some queue =>
            rcases List.getElem?_eq_some_iff.mp isQueue with ⟨inside, rfl⟩
            simp only [List.map_set, ThreadSafeQueue.bound_push]
            rw [← List.map_set, List.set_getElem_self]
      · rfl
  | semPost =>
      rw [call]
      split <;> rfl
  | pop =>
      rw [call]
      split
      · cases selected : selectQueue multiplexer.queues with
        | none => rfl
        | some found => exact (takes_of_selectQueue selected).bounds
      · rfl

theorem bounds_perform (multiplexer : Multiplexer Item) (actions : List (Action Item)) :
    (multiplexer.perform actions).2.queues.map ThreadSafeQueue.bound =
      multiplexer.queues.map ThreadSafeQueue.bound := by
  induction actions generalizing multiplexer with
  | nil => rfl
  | cons action rest induction => rw [perform, induction, bounds_call]

theorem ignoresNew_iff : multiplexer.IgnoresNew ↔
    ∀ bound ∈ multiplexer.queues.map ThreadSafeQueue.bound, ∀ items, bound.2 items = items := by
  rw [List.forall_mem_map]
  exact Iff.rfl

theorem ignoresNew_call (ignores : multiplexer.IgnoresNew) (action : Action Item) :
    (multiplexer.call action).2.IgnoresNew := by
  rw [ignoresNew_iff, bounds_call]
  exact ignoresNew_iff.mp ignores

theorem ignoresNew_ignoringNew (sizes : List Nat) :
    (ignoringNew sizes : Multiplexer Item).IgnoresNew := by
  intro queue isQueue items
  rcases List.mem_map.mp isQueue with ⟨size, _, rfl⟩
  rfl

/-- A way in which lists can be shorter, or have to be the same. -/
structure Shortening (Shorter : List Item → List Item → Prop) : Prop where
  refl : ∀ items, Shorter items items
  trans : ∀ first second third, Shorter first second → Shorter second third → Shorter first third
  append : ∀ first second third fourth, Shorter first second → Shorter third fourth →
    Shorter (first ++ third) (second ++ fourth)

theorem shortening_sublist : Shortening fun first second : List Item => first.Sublist second where
  refl := List.Sublist.refl
  trans _ _ _ := List.Sublist.trans
  append _ _ _ _ := List.Sublist.append

theorem shortening_eq : Shortening fun first second : List Item => first = second where
  refl _ := rfl
  trans _ _ _ := Eq.trans
  append _ _ _ _ same sameBehind := by rw [same, sameBehind]

/-- What the handler of a queue leaves of its items. -/
def HandlerLeaves (Shorter : List Item → List Item → Prop) (multiplexer : Multiplexer Item)
    (index : Nat) : Prop :=
  ∀ bound ∈ (multiplexer.queues.map ThreadSafeQueue.bound)[index]?, ∀ items,
    Shorter (bound.2 items) items

theorem HandlerLeaves.call {Shorter : List Item → List Item → Prop} {index : Nat}
    (leaves : multiplexer.HandlerLeaves Shorter index) (action : Action Item) :
    (multiplexer.call action).2.HandlerLeaves Shorter index := by
  rw [HandlerLeaves, bounds_call]
  exact leaves

theorem HandlerLeaves.push {Shorter : List Item → List Item → Prop}
    (shortening : Shortening Shorter) {queue : ThreadSafeQueue Item}
    (leaves : ∀ items, Shorter (queue.maxElementsHandler items) items) (item : Item) :
    Shorter (queue.push item).2.items
      (queue.items ++ acceptedItem 0 (.push 0 item) (.pushed (queue.push item).1)) := by
  have dropped : Shorter queue.dropItemsIfAtCapacity.2.items queue.items := by
    rw [ThreadSafeQueue.dropItemsIfAtCapacity]
    split
    · exact leaves queue.items
    · exact shortening.refl queue.items
  rw [ThreadSafeQueue.push]
  cases queue.dropItemsIfAtCapacity.1 with
  | true => exact shortening.append _ _ _ _ dropped (shortening.refl [item])
  | false => simpa [acceptedItem] using dropped

theorem call_items {Shorter : List Item → List Item → Prop} (shortening : Shortening Shorter)
    {index : Nat} (leaves : multiplexer.HandlerLeaves Shorter index) (action : Action Item) :
    Shorter
      (poppedItem index (multiplexer.call action).1 ++
        itemsAt (multiplexer.call action).2.queues index)
      (itemsAt multiplexer.queues index ++
        acceptedItem index action (multiplexer.call action).1) := by
  have unchanged (answer : Answer Item) (isNothing : poppedItem index answer = [])
      (noneAccepted : acceptedItem index action answer = []) :
      Shorter (poppedItem index answer ++ itemsAt multiplexer.queues index)
        (itemsAt multiplexer.queues index ++ acceptedItem index action answer) := by
    rw [isNothing, noneAccepted, List.nil_append, List.append_nil]
    exact shortening.refl _
  cases action with
  | push at_ item =>
      rw [call]
      by_cases alive : multiplexer.alive = true
      · rw [if_pos alive]
        cases isQueue : multiplexer.queues[at_]? with
        | none => exact unchanged _ rfl rfl
        | some queue =>
            simp only [itemsAt_set isQueue]
            by_cases same : at_ = index
            · subst same
              have isBound : (multiplexer.queues.map ThreadSafeQueue.bound)[at_]? =
                  some queue.bound := by
                rw [List.getElem?_map, isQueue, Option.map_some]
              have pushed := HandlerLeaves.push shortening (leaves _ isBound) item
              rw [if_pos rfl, itemsAt, isQueue]
              cases isAccepted : (queue.push item).1 with
              | true => simpa [isAccepted, acceptedItem, poppedItem] using pushed
              | false => simpa [isAccepted, acceptedItem, poppedItem] using pushed
            · rw [if_neg same]
              cases (queue.push item).1 with
              | true => exact unchanged _ rfl (if_neg same)
              | false => exact unchanged _ rfl rfl
      · rw [if_neg alive]
        exact unchanged _ rfl rfl
  | semPost =>
      rw [call]
      split
      · exact unchanged _ rfl rfl
      · exact unchanged _ rfl rfl
  | pop =>
      rw [call]
      split
      · cases selected : selectQueue multiplexer.queues with
        | none => exact unchanged _ rfl rfl
        | some found =>
            rcases found with ⟨from_, item, rest⟩
            have takes := takes_of_selectQueue selected
            by_cases same : from_ = index
            · subst same
              simpa [acceptedItem, poppedItem, takes.itemsAt] using shortening.refl _
            · simpa [acceptedItem, poppedItem, same, takes.others index (Ne.symm same)] using
                shortening.refl _
      · exact unchanged _ rfl rfl

theorem perform_items {Shorter : List Item → List Item → Prop} (shortening : Shortening Shorter)
    {index : Nat} (leaves : multiplexer.HandlerLeaves Shorter index)
    (actions : List (Action Item)) :
    Shorter
      (poppedItems index (multiplexer.perform actions).1 ++
        itemsAt (multiplexer.perform actions).2.queues index)
      (itemsAt multiplexer.queues index ++
        acceptedItems index actions (multiplexer.perform actions).1) := by
  induction actions generalizing multiplexer with
  | nil => simpa [perform, acceptedItems, poppedItems] using shortening.refl _
  | cons action rest induction =>
      have first := call_items shortening leaves action
      have later := induction (leaves.call action)
      rw [perform, acceptedItems, poppedItems, List.flatMap_cons]
      rw [List.append_assoc, ← List.append_assoc (itemsAt multiplexer.queues index)]
      refine shortening.trans _ _ _ (shortening.append _ _ _ _ (shortening.refl _) later) ?_
      rw [← List.append_assoc]
      exact shortening.append _ _ _ _ first (shortening.refl _)

def HasRoom (multiplexer : Multiplexer Item) (index : Nat) : Prop :=
  ∀ bound ∈ (multiplexer.queues.map ThreadSafeQueue.bound)[index]?, bound.1 ≠ 0 →
    (itemsAt multiplexer.queues index).length ≤ bound.1

theorem HasRoom.call {index : Nat} (room : multiplexer.HasRoom index)
    (drops : multiplexer.HandlerLeaves List.Sublist index) (action : Action Item) :
    (multiplexer.call action).2.HasRoom index := by
  rw [HasRoom, bounds_call]
  intro bound isBound limited
  cases action with
  | push at_ item =>
      rw [Multiplexer.call]
      split
      · cases isQueue : multiplexer.queues[at_]? with
        | none => exact room bound isBound limited
        | some queue =>
            simp only [itemsAt_set isQueue]
            by_cases same : at_ = index
            · subst same
              have within := room bound isBound limited
              have leaves := drops bound isBound
              rw [List.getElem?_map, isQueue, Option.map_some, Option.mem_some_iff] at isBound
              subst isBound
              rw [itemsAt, isQueue] at within
              rw [if_pos rfl]
              exact ThreadSafeQueue.length_push leaves limited within item
            · rw [if_neg same]
              exact room bound isBound limited
      · exact room bound isBound limited
  | semPost =>
      rw [Multiplexer.call]
      split <;> exact room bound isBound limited
  | pop =>
      rw [Multiplexer.call]
      split
      · cases selected : selectQueue multiplexer.queues with
        | none => exact room bound isBound limited
        | some found =>
            have takes := takes_of_selectQueue selected
            have within := room bound isBound limited
            by_cases same : found.1 = index
            · subst same
              rw [takes.itemsAt, List.length_cons] at within
              exact Nat.le_of_succ_le within
            · simpa only [takes.others index (Ne.symm same)] using within
      · exact room bound isBound limited

theorem HasRoom.perform {index : Nat} (room : multiplexer.HasRoom index)
    (drops : multiplexer.HandlerLeaves List.Sublist index) (actions : List (Action Item)) :
    (multiplexer.perform actions).2.HasRoom index := by
  induction actions generalizing multiplexer with
  | nil => exact room
  | cons action rest induction => exact induction (room.call drops action) (drops.call action)

theorem bounds_starting (bounds : List (Nat × (List Item → List Item))) :
    (starting bounds).queues.map ThreadSafeQueue.bound = bounds := by
  rw [starting, List.map_map]
  exact List.map_id bounds

theorem itemsAt_starting (bounds : List (Nat × (List Item → List Item))) (index : Nat) :
    itemsAt (starting bounds).queues index = [] := by
  rw [itemsAt, starting, List.getElem?_map]
  cases bounds[index]? <;> rfl

/-- Where the handler of a queue drops items or none, however the threads take turns, what has come
from the queue and what is in it were accepted, each once and in this order. Nothing that was
accepted is missing if the handler leaves the items alone, and no more than there is room for is in
the queue. -/
theorem multiplexer_fifo (bounds : List (Nat × (List Item → List Item))) (index : Nat)
    (drops : ∀ bound ∈ bounds[index]?, ∀ items, (bound.2 items).Sublist items)
    (actions : List (Action Item)) :
    (poppedItems index ((starting bounds).perform actions).1 ++
        itemsAt ((starting bounds).perform actions).2.queues index).Sublist
      (acceptedItems index actions ((starting bounds).perform actions).1) ∧
    ∀ bound ∈ bounds[index]?,
      ((∀ items, bound.2 items = items) →
        poppedItems index ((starting bounds).perform actions).1 ++
            itemsAt ((starting bounds).perform actions).2.queues index =
          acceptedItems index actions ((starting bounds).perform actions).1) ∧
      (bound.1 ≠ 0 →
        (itemsAt ((starting bounds).perform actions).2.queues index).length ≤ bound.1) := by
  have leaves : (starting bounds).HandlerLeaves List.Sublist index := by
    rwa [HandlerLeaves, bounds_starting]
  have kept := perform_items shortening_sublist leaves actions
  rw [itemsAt_starting, List.nil_append] at kept
  refine ⟨kept, ?_⟩
  intro bound isBound
  constructor
  · intro ignores
    have same : (starting bounds).HandlerLeaves Eq index := by
      rw [HandlerLeaves, bounds_starting]
      intro other isOther
      rw [Option.mem_unique isOther isBound]
      exact ignores
    have all := perform_items shortening_eq same actions
    rwa [itemsAt_starting, List.nil_append] at all
  · intro limited
    have empty : (starting bounds).HasRoom index := by
      intro _ _ _
      rw [itemsAt_starting]
      exact Nat.zero_le _
    have room := empty.perform leaves actions
    rw [HasRoom, bounds_perform, bounds_starting] at room
    exact room bound isBound limited

def droppingAndRefusing : List (Nat × (List Char → List Char)) :=
  [(1, List.drop 1), (1, fun items => items)]

def crowded : List (Action Char) :=
  [.push 0 'a', .push 0 'b', .push 1 'c', .push 1 'd', .semPost, .pop]

theorem multiplexer_fifo_crowded :
    (poppedItems 0 ((starting droppingAndRefusing).perform crowded).1 ++
        itemsAt ((starting droppingAndRefusing).perform crowded).2.queues 0).Sublist
      (acceptedItems 0 crowded ((starting droppingAndRefusing).perform crowded).1) ∧
    ∀ bound ∈ droppingAndRefusing[0]?,
      ((∀ items, bound.2 items = items) →
        poppedItems 0 ((starting droppingAndRefusing).perform crowded).1 ++
            itemsAt ((starting droppingAndRefusing).perform crowded).2.queues 0 =
          acceptedItems 0 crowded ((starting droppingAndRefusing).perform crowded).1) ∧
      (bound.1 ≠ 0 →
        (itemsAt ((starting droppingAndRefusing).perform crowded).2.queues 0).length ≤ bound.1) := by
  refine multiplexer_fifo droppingAndRefusing 0 ?_ crowded
  intro bound isBound items
  cases isBound
  exact List.drop_sublist 1 items

example : poppedItems 0 ((starting droppingAndRefusing).perform crowded).1 = ['b'] ∧
    acceptedItems 0 crowded ((starting droppingAndRefusing).perform crowded).1 = ['a', 'b'] := by
  decide

/-! ## The semaphore counts refused items -/

def refusal : Answer Item → Nat
  | .pushed false => 1
  | _ => 0

def refused : List (Answer Item) → Nat
  | [] => 0
  | answer :: answers => refusal answer + refused answers

theorem allItems_append {queues : List (ThreadSafeQueue Item)} {index : Nat}
    {queue : ThreadSafeQueue Item} (isQueue : queues[index]? = some queue) (item : Item) :
    (allItems (queues.set index { queue with items := queue.items ++ [item] })).Perm
      (item :: allItems queues) := by
  induction queues generalizing index with
  | nil => simp at isQueue
  | cons first rest induction =>
      cases index with
      | zero =>
          simp only [List.getElem?_cons_zero, Option.some.injEq] at isQueue
          subst isQueue
          simp only [List.set_cons_zero, allItems, List.append_assoc]
          exact List.perm_middle
      | succ index =>
          simp only [List.getElem?_cons_succ] at isQueue
          simp only [List.set_cons_succ, allItems]
          exact ((induction isQueue).append_left first.items).trans List.perm_middle

theorem selectQueue_eq_none {queues : List (ThreadSafeQueue Item)} :
    selectQueue queues = none ↔ allItems queues = [] := by
  induction queues with
  | nil => simp [selectQueue, allItems]
  | cons queue rest induction =>
      rw [selectQueue, allItems]
      cases isItems : queue.items with
      | nil => simpa using induction
      | cons first items => simp

theorem push_cases (ignores : multiplexer.IgnoresNew)
    (alive : multiplexer.alive = true) {index : Nat} (inside : index < multiplexer.queues.length)
    (item : Item) :
    ∃ accepted queues, multiplexer.call (.push index item) =
        (.pushed accepted,
          { multiplexer with queues := queues, unposted := multiplexer.unposted + 1 }) ∧
      (allItems queues).Perm
        (if accepted then item :: allItems multiplexer.queues else allItems multiplexer.queues) := by
  have isQueue := List.getElem?_eq_getElem inside
  refine ⟨_, _, by rw [call, if_pos alive, isQueue], ?_⟩
  rw [ThreadSafeQueue.push_eq (ignores _ (List.mem_of_getElem? isQueue))]
  by_cases full : multiplexer.queues[index].isFull = true
  · simp [full]
  · simpa [full] using allItems_append isQueue item

theorem pop_cases (multiplexer : Multiplexer Item) :
    (∃ index item queues, multiplexer.call .pop = (.popped index item,
        { multiplexer with queues := queues, semItems := multiplexer.semItems - 1 }) ∧
        multiplexer.semItems ≠ 0 ∧ allItems multiplexer.queues = item :: allItems queues) ∨
      multiplexer.call .pop = (.checkFailed,
        { multiplexer with semItems := multiplexer.semItems - 1, alive := false }) ∧
        multiplexer.semItems ≠ 0 ∧ allItems multiplexer.queues = [] ∨
      multiplexer.call .pop = (.blocked, multiplexer) := by
  rw [call]
  split
  · rename_i enabled
    cases selected : selectQueue multiplexer.queues with
    | none => exact .inr (.inl ⟨rfl, enabled.2, selectQueue_eq_none.mp selected⟩)
    | some found => exact .inl ⟨_, _, _, rfl, enabled.2, (takes_of_selectQueue selected).allItems⟩
  · exact .inr (.inr rfl)

/-- The semaphore, with what is still to be posted, counts what is stored and what was refused. -/
def Balanced (multiplexer : Multiplexer Item) (refusals : Nat) : Prop :=
  multiplexer.alive = true ∧
    multiplexer.semItems + multiplexer.unposted = (allItems multiplexer.queues).length + refusals

theorem Balanced.call {refusals : Nat}
    (balanced : multiplexer.Balanced refusals) (ignores : multiplexer.IgnoresNew)
    {action : Action Item}
    (valid : ∀ index item, action = .push index item → index < multiplexer.queues.length) :
    (multiplexer.call action).2.Balanced (refusals + refusal (multiplexer.call action).1) ∨
      (multiplexer.call action).2.alive = false ∧ 0 < refusals := by
  rcases balanced with ⟨alive, balance⟩
  cases action with
  | push index item =>
      rcases push_cases ignores alive (valid index item rfl) item with
        ⟨accepted, queues, called, isItems⟩
      have size := isItems.length_eq
      rw [called]
      refine .inl ⟨alive, ?_⟩
      cases accepted <;> simp [refusal] at size ⊢ <;> omega
  | semPost =>
      rw [Multiplexer.call]
      split
      · rename_i enabled
        have waits := enabled.2.1
        refine .inl ⟨alive, ?_⟩
        simp only [refusal]
        omega
      · exact .inl ⟨alive, balance⟩
  | pop =>
      rcases multiplexer.pop_cases with
        ⟨index, item, queues, called, counted, isItems⟩ | ⟨called, counted, isItems⟩ | called
      · rw [isItems, List.length_cons] at balance
        rw [called]
        refine .inl ⟨alive, ?_⟩
        simp only [refusal]
        omega
      · rw [isItems, List.length_nil] at balance
        rw [called]
        exact .inr ⟨rfl, by omega⟩
      · rw [called]
        exact .inl ⟨alive, balance⟩

theorem length_queues_call (multiplexer : Multiplexer Item) (action : Action Item) :
    (multiplexer.call action).2.queues.length = multiplexer.queues.length := by
  cases action with
  | push index item =>
      rw [call]
      split
      · split
        · rfl
        · exact List.length_set
      · rfl
  | semPost =>
      rw [call]
      split <;> rfl
  | pop =>
      rw [call]
      split
      · cases selected : selectQueue multiplexer.queues with
        | none => rfl
        | some found => exact (takes_of_selectQueue selected).length
      · rfl

theorem call_of_dead (dead : multiplexer.alive = false)
    (action : Action Item) : multiplexer.call action = (.blocked, multiplexer) := by
  cases action <;> simp [call, dead]

theorem perform_of_dead (dead : multiplexer.alive = false)
    (actions : List (Action Item)) : (multiplexer.perform actions).2 = multiplexer := by
  induction actions with
  | nil => rfl
  | cons action rest induction => rw [perform, call_of_dead dead, induction]

theorem Balanced.perform {refusals : Nat}
    (balanced : multiplexer.Balanced refusals) (ignores : multiplexer.IgnoresNew)
    {actions : List (Action Item)}
    (valid : ∀ index item, .push index item ∈ actions → index < multiplexer.queues.length) :
    (multiplexer.perform actions).2.Balanced (refusals + refused (multiplexer.perform actions).1) ∨
      (multiplexer.perform actions).2.alive = false ∧
        0 < refusals + refused (multiplexer.perform actions).1 := by
  induction actions generalizing multiplexer refusals with
  | nil => exact .inl balanced
  | cons action rest induction =>
      rw [Multiplexer.perform, refused]
      have validRest : ∀ index item, .push index item ∈ rest →
          index < (multiplexer.call action).2.queues.length := by
        intro index item isIn
        rw [length_queues_call]
        exact valid index item (List.mem_cons_of_mem action isIn)
      have validFirst : ∀ index item, action = .push index item →
          index < multiplexer.queues.length :=
        fun index item same => valid index item (same ▸ List.mem_cons_self)
      rcases balanced.call ignores validFirst with next | ⟨dead, some_⟩
      · rcases induction next (ignoresNew_call ignores action) validRest with later | later
        · left
          rwa [← Nat.add_assoc]
        · right
          rwa [← Nat.add_assoc]
      · right
        exact ⟨by rw [perform_of_dead dead]; exact dead, by omega⟩

def drainActions : (semItems unposted : Nat) → List (Action Item)
  | 0, 0 => []
  | semItems + 1, unposted => .pop :: drainActions semItems unposted
  | 0, unposted + 1 => .semPost :: .pop :: drainActions 0 unposted

def drain (multiplexer : Multiplexer Item) : List (Action Item) :=
  drainActions multiplexer.semItems multiplexer.unposted

theorem perform_pop {semItems unposted : Nat} {actions : List (Action Item)}
    (drains : ∀ queues, (perform ⟨queues, semItems, unposted, true⟩ actions).2.alive = false ↔
      (allItems queues).length < semItems + unposted) (queues : List (ThreadSafeQueue Item)) :
    (perform ⟨queues, semItems + 1, unposted, true⟩ (.pop :: actions)).2.alive = false ↔
      (allItems queues).length < semItems + 1 + unposted := by
  rw [perform]
  rcases pop_cases ⟨queues, semItems + 1, unposted, true⟩ with
    ⟨index, item, rest, called, _, isItems⟩ | ⟨called, _, isItems⟩ | called
  · simp only at isItems
    rw [called, isItems, List.length_cons]
    apply (drains rest).trans
    omega
  · simp only at isItems
    rw [called, perform_of_dead rfl, isItems, List.length_nil]
    simp only [true_iff]
    omega
  · simp [call] at called
    split at called <;> cases called

theorem perform_drainActions (queues : List (ThreadSafeQueue Item)) (semItems unposted : Nat) :
    (perform ⟨queues, semItems, unposted, true⟩ (drainActions semItems unposted)).2.alive = false ↔
      (allItems queues).length < semItems + unposted := by
  induction semItems, unposted using drainActions.induct generalizing queues with
  | case1 => simp [drainActions, perform]
  | case2 semItems unposted induction =>
      rw [drainActions]
      exact perform_pop induction queues
  | case3 unposted induction =>
      have room : 0 < capacity := by decide
      rw [drainActions, perform, call, if_pos ⟨rfl, Nat.succ_ne_zero _, room⟩]
      apply (perform_pop induction queues).trans
      omega

theorem perform_drain (alive : multiplexer.alive = true) :
    (multiplexer.perform multiplexer.drain).2.alive = false ↔
      (allItems multiplexer.queues).length < multiplexer.semItems + multiplexer.unposted := by
  rcases multiplexer with ⟨queues, semItems, unposted, _⟩
  cases alive
  exact perform_drainActions queues semItems unposted

theorem balanced_ignoringNew (sizes : List Nat) :
    (ignoringNew sizes : Multiplexer Item).Balanced 0 := by
  refine ⟨rfl, ?_⟩
  simp only [ignoringNew]
  induction sizes with
  | nil => rfl
  | cons size rest induction => simpa [allItems] using induction

/-- A refused item is counted by the semaphore all the same. The consumer of queues that ignore new
items fails its check once it has taken all that was accepted, just when something was refused, and
never before. -/
theorem multiplexer_check_fails (sizes : List Nat) (actions : List (Action Item))
    (valid : ∀ index item, .push index item ∈ actions → index < sizes.length) :
    (refused (run sizes actions).1 = 0 → (run sizes actions).2.alive = true) ∧
      ((run sizes actions).2.alive = true →
        (((run sizes actions).2.perform (run sizes actions).2.drain).2.alive = false ↔
          0 < refused (run sizes actions).1)) := by
  have validAt : ∀ index item, .push index item ∈ actions →
      index < (ignoringNew sizes : Multiplexer Item).queues.length := by
    intro index item isIn
    rw [ignoringNew, List.length_map]
    exact valid index item isIn
  have balanced := (balanced_ignoringNew sizes).perform (ignoresNew_ignoringNew sizes) validAt
  rw [Nat.zero_add, ← run] at balanced
  constructor
  · intro noneRefused
    rcases balanced with balanced | ⟨_, some_⟩
    · exact balanced.1
    · omega
  · intro alive
    rcases balanced with balanced | ⟨dead, _⟩
    · have balance := balanced.2
      rw [perform_drain alive]
      omega
    · rw [alive] at dead
      cases dead

theorem multiplexer_check_fails_full :
    (refused (run [1] [.push 0 'a', .push 0 'b']).1 = 0 →
        (run [1] [.push 0 'a', .push 0 'b']).2.alive = true) ∧
      ((run [1] [.push 0 'a', .push 0 'b']).2.alive = true →
        (((run [1] [.push 0 'a', .push 0 'b']).2.perform
            (run [1] [.push 0 'a', .push 0 'b']).2.drain).2.alive = false ↔
          0 < refused (run [1] [.push 0 'a', .push 0 'b']).1)) := by
  refine multiplexer_check_fails [1] _ ?_
  intro index item isIn
  simp only [List.mem_cons, Action.push.injEq, List.not_mem_nil, or_false] at isIn
  rcases isIn with ⟨rfl, _⟩ | ⟨rfl, _⟩ <;> exact Nat.one_pos

end Multiplexer

end Cuttlefish.Concurrency
