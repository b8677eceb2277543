import Mathlib.Data.List.TakeWhile
import Mathlib.Order.Lattice

/-! # Functions that change at finitely many points

A function on a linear order as the list of the points where its value changes:
each mark holds a point and the value from there on. -/

namespace Cuttlefish.StepFunction

variable {Key Value : Type}

def lastValue (value : Value) : List (Key × Value) → Value
  | [] => value
  | mark :: rest => lastValue mark.2 rest

def Reduced (value : Value) : List (Key × Value) → Prop
  | [] => True
  | mark :: rest => mark.2 ≠ value ∧ Reduced mark.2 rest

@[simp] theorem lastValue_append (value : Value) (before after : List (Key × Value)) :
    lastValue value (before ++ after) = lastValue (lastValue value before) after := by
  induction before generalizing value with
  | nil => rfl
  | cons mark rest induction => exact induction mark.2

@[simp] theorem reduced_append (value : Value) (before after : List (Key × Value)) :
    Reduced value (before ++ after) ↔
      Reduced value before ∧ Reduced (lastValue value before) after := by
  induction before generalizing value with
  | nil => simp [Reduced, lastValue]
  | cons mark rest induction =>
      simp only [List.cons_append, Reduced, lastValue, induction, and_assoc]

variable [LinearOrder Key]

def valueAt (value : Value) : List (Key × Value) → Key → Value
  | [], _ => value
  | mark :: rest, point => if point < mark.1 then value else valueAt mark.2 rest point

abbrev Sorted (marks : List (Key × Value)) : Prop :=
  marks.Pairwise fun first second => first.1 < second.1

/-! ## Marks in front of and behind a point -/

theorem valueAt_of_lt {value : Value} {marks : List (Key × Value)} {point : Key}
    (behind : ∀ mark ∈ marks, point < mark.1) : valueAt value marks point = value := by
  cases marks with
  | nil => rfl
  | cons mark rest => simp [valueAt, behind mark List.mem_cons_self]

theorem valueAt_append_of_lt {value : Value} {before after : List (Key × Value)} {point : Key}
    (behind : ∀ mark ∈ after, point < mark.1) :
    valueAt value (before ++ after) point = valueAt value before point := by
  induction before generalizing value with
  | nil => exact valueAt_of_lt behind
  | cons mark rest induction => simp [valueAt, induction]

theorem valueAt_append_of_le {value : Value} {before after : List (Key × Value)} {point : Key}
    (reached : ∀ mark ∈ before, mark.1 ≤ point) :
    valueAt value (before ++ after) point = valueAt (lastValue value before) after point := by
  induction before generalizing value with
  | nil => rfl
  | cons mark rest induction =>
      have passed : ¬ point < mark.1 := not_lt.mpr (reached mark List.mem_cons_self)
      simp only [List.cons_append, valueAt, passed, if_false, lastValue]
      exact induction fun other member => reached other (List.mem_cons_of_mem mark member)

theorem not_of_mem_dropWhile {marks : List (Key × Value)} (sorted : Sorted marks)
    (early : Key → Bool) (closed : ∀ first second, first < second → early second → early first) :
    ∀ mark ∈ marks.dropWhile (fun mark => early mark.1), early mark.1 = false := by
  induction marks with
  | nil => simp
  | cons first rest induction =>
      rcases List.pairwise_cons.mp sorted with ⟨firstLess, restSorted⟩
      intro mark member
      rw [List.dropWhile_cons] at member
      split at member
      · exact induction restSorted mark member
      · rename_i late
        rcases List.mem_cons.mp member with isFirst | member
        · simpa [isFirst] using late
        · by_contra isEarly
          exact late (closed _ _ (firstLess mark member) (by simpa using isEarly))

theorem exists_split {marks : List (Key × Value)} (sorted : Sorted marks) (start end_ : Key) :
    ∃ before between after, marks = before ++ between ++ after ∧
      (∀ mark ∈ before, mark.1 < start) ∧
      (∀ mark ∈ between, start ≤ mark.1 ∧ mark.1 ≤ end_) ∧
      ∀ mark ∈ after, end_ < mark.1 := by
  let rest := marks.dropWhile fun mark => decide (mark.1 < start)
  have restSorted : Sorted rest := sorted.sublist (List.dropWhile_sublist _)
  have fromStart : ∀ mark ∈ rest, decide (mark.1 < start) = false := by
    apply not_of_mem_dropWhile sorted fun point => decide (point < start)
    intro first second less early
    simp only [decide_eq_true_eq] at early ⊢
    exact lt_trans less early
  have pastEnd : ∀ mark ∈ rest.dropWhile (fun mark => decide (mark.1 ≤ end_)),
      decide (mark.1 ≤ end_) = false := by
    apply not_of_mem_dropWhile restSorted fun point => decide (point ≤ end_)
    intro first second less early
    simp only [decide_eq_true_eq] at early ⊢
    exact le_trans (le_of_lt less) early
  refine ⟨marks.takeWhile fun mark => decide (mark.1 < start),
    rest.takeWhile fun mark => decide (mark.1 ≤ end_),
    rest.dropWhile fun mark => decide (mark.1 ≤ end_), ?_, ?_, ?_, ?_⟩
  · rw [List.append_assoc, List.takeWhile_append_dropWhile, List.takeWhile_append_dropWhile]
  · intro mark member
    simpa using List.mem_takeWhile_imp member
  · intro mark member
    have reached := fromStart mark ((List.takeWhile_sublist _).subset member)
    have bounded := List.mem_takeWhile_imp member
    exact ⟨by simpa using reached, by simpa using bounded⟩
  · intro mark member
    simpa using pastEnd mark member

/-! ## Assigning a value to a range -/

def change [DecidableEq Value] (old : Value) (point : Key) (new : Value) : List (Key × Value) :=
  if old = new then [] else [(point, new)]

section

variable [DecidableEq Value] {value new : Value} {start end_ : Key}
  {before between after : List (Key × Value)}

omit [LinearOrder Key] in
@[simp] theorem lastValue_change (old new : Value) (point : Key) :
    lastValue old (change old point new) = new := by
  rw [change]
  split
  · simpa [lastValue]
  · rfl

omit [LinearOrder Key] in
@[simp] theorem reduced_change (old new : Value) (point : Key) :
    Reduced old (change old point new) := by
  rw [change]
  split
  · trivial
  · exact ⟨Ne.symm ‹_›, trivial⟩

omit [LinearOrder Key] in
theorem mem_change {old new : Value} {point : Key} {mark : Key × Value}
    (member : mark ∈ change old point new) : mark.1 = point := by
  rw [change] at member
  split at member
  · cases member
  · rw [List.mem_singleton.mp member]

omit [LinearOrder Key] in
/-- The marks of a function that is `new` from `start` to `end_` and otherwise as
before: those within the range are dropped, and those at its ends are added where
the value changes. -/
theorem reduced_assign (reduced : Reduced value (before ++ between ++ after)) :
    Reduced value (before ++ change (lastValue value before) start new ++
      change new end_ (lastValue value (before ++ between)) ++ after) := by
  simp only [reduced_append, lastValue_append, lastValue_change, reduced_change] at reduced ⊢
  exact ⟨⟨⟨reduced.1.1, trivial⟩, trivial⟩, reduced.2⟩

theorem valueAt_assign (ordered : start ≤ end_)
    (early : ∀ mark ∈ before, mark.1 < start)
    (within : ∀ mark ∈ between, start ≤ mark.1 ∧ mark.1 ≤ end_)
    (late : ∀ mark ∈ after, end_ < mark.1) (point : Key) :
    valueAt value (before ++ change (lastValue value before) start new ++
        change new end_ (lastValue value (before ++ between)) ++ after) point =
      if start ≤ point ∧ point < end_ then new
      else valueAt value (before ++ between ++ after) point := by
  by_cases isEarly : point < start
  · -- The marks that differ all lie behind the point.
    have notWithin : ¬ (start ≤ point ∧ point < end_) := fun inside =>
      absurd isEarly (not_lt.mpr inside.1)
    have lateBehind : ∀ mark ∈ after, point < mark.1 := fun mark member =>
      lt_trans (lt_of_lt_of_le isEarly ordered) (late mark member)
    have endBehind : ∀ mark ∈ change new end_ (lastValue value (before ++ between)),
        point < mark.1 := fun mark member =>
      mem_change member ▸ lt_of_lt_of_le isEarly ordered
    have startBehind : ∀ mark ∈ change (lastValue value before) start new, point < mark.1 :=
      fun mark member => mem_change member ▸ isEarly
    have betweenBehind : ∀ mark ∈ between, point < mark.1 := fun mark member =>
      lt_of_lt_of_le isEarly (within mark member).1
    rw [if_neg notWithin, valueAt_append_of_lt lateBehind, valueAt_append_of_lt endBehind,
      valueAt_append_of_lt startBehind, valueAt_append_of_lt lateBehind,
      valueAt_append_of_lt betweenBehind]
  · have afterStart : start ≤ point := not_lt.mp isEarly
    have earlyReached : ∀ mark ∈ before, mark.1 ≤ point := fun mark member =>
      le_trans (le_of_lt (early mark member)) afterStart
    have startReached : ∀ mark ∈ before ++ change (lastValue value before) start new,
        mark.1 ≤ point := by
      intro mark member
      rcases List.mem_append.mp member with member | member
      · exact earlyReached mark member
      · exact mem_change member ▸ afterStart
    by_cases isWithin : point < end_
    · have lateBehind : ∀ mark ∈ after, point < mark.1 := fun mark member =>
        lt_trans isWithin (late mark member)
      have endBehind : ∀ mark ∈ change new end_ (lastValue value (before ++ between)),
          point < mark.1 := fun mark member => mem_change member ▸ isWithin
      rw [if_pos ⟨afterStart, isWithin⟩, valueAt_append_of_lt lateBehind,
        valueAt_append_of_le startReached, valueAt_of_lt endBehind, lastValue_append,
        lastValue_change]
    · have afterEnd : end_ ≤ point := not_lt.mp isWithin
      have endReached : ∀ mark ∈ before ++ change (lastValue value before) start new ++
          change new end_ (lastValue value (before ++ between)), mark.1 ≤ point := by
        intro mark member
        rcases List.mem_append.mp member with member | member
        · exact startReached mark member
        · exact mem_change member ▸ afterEnd
      have betweenReached : ∀ mark ∈ before ++ between, mark.1 ≤ point := by
        intro mark member
        rcases List.mem_append.mp member with member | member
        · exact earlyReached mark member
        · exact le_trans (within mark member).2 afterEnd
      rw [if_neg (fun inside => isWithin inside.2), valueAt_append_of_le endReached,
        valueAt_append_of_le betweenReached]
      simp

end

/-! ## Uniqueness -/

theorem eq_of_valueAt_eq {value : Value} {left right : List (Key × Value)}
    (sortedLeft : Sorted left) (sortedRight : Sorted right)
    (reducedLeft : Reduced value left) (reducedRight : Reduced value right)
    (same : ∀ point, valueAt value left point = valueAt value right point) :
    left = right := by
  induction left generalizing value right with
  | nil =>
      cases right with
      | nil => rfl
      | cons mark rest =>
          have atMark : valueAt value (mark :: rest) mark.1 = mark.2 := by
            simp only [valueAt, lt_irrefl, if_false]
            exact valueAt_of_lt (List.pairwise_cons.mp sortedRight).1
          exact absurd (atMark.symm.trans (same mark.1).symm) reducedRight.1
  | cons first leftRest induction =>
      have atFirst : valueAt value (first :: leftRest) first.1 = first.2 := by
        simp only [valueAt, lt_irrefl, if_false]
        exact valueAt_of_lt (List.pairwise_cons.mp sortedLeft).1
      cases right with
      | nil => exact absurd (atFirst.symm.trans (same first.1)) reducedLeft.1
      | cons second rightRest =>
          have atSecond : valueAt value (second :: rightRest) second.1 = second.2 := by
            simp only [valueAt, lt_irrefl, if_false]
            exact valueAt_of_lt (List.pairwise_cons.mp sortedRight).1
          have points : first.1 = second.1 := by
            rcases lt_trichotomy first.1 second.1 with less | equal | less
            · have early : valueAt value (second :: rightRest) first.1 = value := by
                simp [valueAt, less]
              exact absurd (atFirst.symm.trans ((same first.1).trans early)) reducedLeft.1
            · exact equal
            · have early : valueAt value (first :: leftRest) second.1 = value := by
                simp [valueAt, less]
              exact absurd (atSecond.symm.trans ((same second.1).symm.trans early)) reducedRight.1
          have values : first.2 = second.2 := by
            rw [← atFirst, same first.1, points, atSecond]
          have marks : first = second := Prod.ext points values
          subst marks
          have rests : leftRest = rightRest := by
            apply induction (List.pairwise_cons.mp sortedLeft).2 (List.pairwise_cons.mp sortedRight).2
              reducedLeft.2 reducedRight.2
            intro point
            by_cases early : point < first.1
            · rw [valueAt_of_lt, valueAt_of_lt]
              · intro mark member
                exact lt_trans early ((List.pairwise_cons.mp sortedRight).1 mark member)
              · intro mark member
                exact lt_trans early ((List.pairwise_cons.mp sortedLeft).1 mark member)
            · simpa [valueAt, early] using same point
          rw [rests]

end Cuttlefish.StepFunction
