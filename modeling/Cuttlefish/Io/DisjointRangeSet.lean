import Cuttlefish.Result

/-! # Sets of numbers as disjoint ranges

`DisjointRangeSet` of `io/disjoint_range_set.cc`. The ranges are kept in a
`std::set`, here the list of its elements in order. -/

namespace Cuttlefish.Io

structure Range where
  start : Nat
  end_ : Nat
  deriving DecidableEq, Repr

namespace Range

def contains (range other : Range) : Bool :=
  range.start ≤ other.start && other.end_ ≤ range.end_

def canMerge (range other : Range) : Bool :=
  range.start ≤ other.end_ && other.start ≤ range.end_

def merge (range other : Range) : Range where
  start := min range.start other.start
  end_ := max range.end_ other.end_

def less (range other : Range) : Bool :=
  range.start < other.start || range.start = other.start && other.end_ < range.end_

def Has (range : Range) (number : Nat) : Prop := range.start ≤ number ∧ number < range.end_

end Range

structure DisjointRangeSet where
  ranges : List Range
  deriving DecidableEq, Repr

namespace DisjointRangeSet

def empty : DisjointRangeSet := ⟨[]⟩

def upperBound (ranges : List Range) (range : Range) : List Range × List Range :=
  (ranges.takeWhile fun other => !range.less other,
    ranges.dropWhile fun other => !range.less other)

def emplace (range : Range) (ranges : List Range) : List Range :=
  let before := ranges.takeWhile fun other => other.less range
  let after := ranges.dropWhile fun other => other.less range
  match after with
  | [] => before ++ [range]
  | next :: _ => if range.less next then before ++ range :: after else ranges

def containsRangeChecked (set : DisjointRangeSet) (range : Range) : Bool :=
  let (before, after) := upperBound set.ranges range
  match before.getLast?, after with
  | some last, _ => last.contains range
  | none, next :: _ => next.contains range
  | none, [] => false

def checkRange (start end_ : Nat) : Result Unit :=
  if start ≤ end_ then .ok ()
  else .error (.abort "Invalid range: expected start <= end")

def containsRange (set : DisjointRangeSet) (start end_ : Nat) : Result Bool := do
  checkRange start end_
  return set.containsRangeChecked ⟨start, end_⟩

def mergeFollowing (newRange : Range) : List Range → Range × List Range
  | [] => (newRange, [])
  | next :: rest =>
      if newRange.canMerge next then mergeFollowing (newRange.merge next) rest
      else (newRange, next :: rest)

def mergePrevious (before : List Range) (newRange : Range) (after : List Range) : List Range :=
  match before.getLast? with
  | none => emplace newRange (before ++ after)
  | some last =>
      if newRange.canMerge last then
        emplace (newRange.merge last) (before.dropLast ++ after)
      else emplace newRange (before ++ after)

def insertChecked (set : DisjointRangeSet) (range : Range) : DisjointRangeSet :=
  if set.containsRangeChecked range then set
  else
    let (before, after) := upperBound set.ranges range
    let (newRange, after) := mergeFollowing range after
    ⟨mergePrevious before newRange after⟩

def insertRange (set : DisjointRangeSet) (start end_ : Nat) : Result DisjointRangeSet := do
  checkRange start end_
  return set.insertChecked ⟨start, end_⟩

def endOfContainingRange (set : DisjointRangeSet) (start : Nat) : Option Nat :=
  let test : Range := ⟨start, (start + 1) % 18446744073709551616⟩
  let (before, _) := upperBound set.ranges test
  match before.getLast? with
  | none => none
  | some last => if last.contains test then some last.end_ else none

def allRanges (set : DisjointRangeSet) : List (Nat × Nat) :=
  set.ranges.map fun range => (range.start, range.end_)

def Covers (set : DisjointRangeSet) (number : Nat) : Prop :=
  ∃ range ∈ set.ranges, range.Has number

/-! ## Separated ranges -/

/-- The ranges are in order, and neither overlap nor touch. A range may be empty. -/
structure Separated (ranges : List Range) : Prop where
  ordered : ∀ range ∈ ranges, range.start ≤ range.end_
  apart : ranges.Pairwise fun first second => first.end_ < second.start

theorem Separated.sublist {ranges part : List Range} (separated : Separated ranges)
    (sublist : part.Sublist ranges) : Separated part where
  ordered range member := separated.ordered range (sublist.subset member)
  apart := separated.apart.sublist sublist

theorem separated_append {front back : List Range} :
    Separated (front ++ back) ↔
      Separated front ∧ Separated back ∧
        ∀ first ∈ front, ∀ second ∈ back, first.end_ < second.start := by
  constructor
  · intro separated
    exact ⟨separated.sublist (List.sublist_append_left _ _),
      separated.sublist (List.sublist_append_right _ _),
      (List.pairwise_append.mp separated.apart).2.2⟩
  · intro parts
    rcases parts with ⟨separatedFront, separatedBack, apart⟩
    refine ⟨?_, List.pairwise_append.mpr ⟨separatedFront.apart, separatedBack.apart, apart⟩⟩
    intro range member
    rcases List.mem_append.mp member with inFront | inBack
    · exact separatedFront.ordered range inFront
    · exact separatedBack.ordered range inBack

theorem separated_cons {first : Range} {rest : List Range} :
    Separated (first :: rest) ↔
      first.start ≤ first.end_ ∧ Separated rest ∧
        ∀ second ∈ rest, first.end_ < second.start := by
  constructor
  · intro separated
    exact ⟨separated.ordered first List.mem_cons_self,
      separated.sublist (List.sublist_cons_self _ _),
      (List.pairwise_cons.mp separated.apart).1⟩
  · intro parts
    rcases parts with ⟨ordered, separatedRest, apart⟩
    refine ⟨?_, List.pairwise_cons.mpr ⟨apart, separatedRest.apart⟩⟩
    intro range member
    rcases List.mem_cons.mp member with isFirst | inRest
    · exact isFirst ▸ ordered
    · exact separatedRest.ordered range inRest

/-! ## Finding a place -/

theorem upperBound_spec {ranges : List Range} (separated : Separated ranges) (range : Range) :
    (upperBound ranges range).1 ++ (upperBound ranges range).2 = ranges ∧
      (∀ other ∈ (upperBound ranges range).1, range.less other = false) ∧
      ∀ other ∈ (upperBound ranges range).2, range.less other = true := by
  rw [upperBound]
  refine ⟨List.takeWhile_append_dropWhile, ?_, ?_⟩
  · intro other member
    have taken := List.all_eq_true.mp List.all_takeWhile other member
    simpa using taken
  · induction ranges with
    | nil => simp
    | cons first rest induction =>
        rcases separated_cons.mp separated with ⟨firstOrdered, separatedRest, apart⟩
        by_cases greater : range.less first = true
        · rw [List.dropWhile_cons_of_neg (by simp [greater])]
          intro other member
          rcases List.mem_cons.mp member with isFirst | inRest
          · exact isFirst ▸ greater
          · have behind := apart other inRest
            simp only [Range.less, Bool.or_eq_true, decide_eq_true_eq, Bool.and_eq_true]
              at greater ⊢
            omega
        · rw [List.dropWhile_cons_of_pos (by simp [greater])]
          exact induction separatedRest

theorem emplace_between {front back : List Range} {range : Range}
    (after : ∀ other ∈ front, other.less range = true)
    (before : ∀ other ∈ back, range.less other = true) :
    emplace range (front ++ back) = front ++ range :: back := by
  have notLess : ∀ other ∈ back, other.less range = false := by
    intro other member
    have less := before other member
    simp only [Range.less, Bool.or_eq_true, decide_eq_true_eq, Bool.and_eq_true,
      Bool.or_eq_false_iff, decide_eq_false_iff_not, Bool.and_eq_false_iff] at less ⊢
    omega
  rw [emplace]
  have take : (front ++ back).takeWhile (fun other => other.less range) = front := by
    rw [List.takeWhile_append_of_pos after]
    cases back with
    | nil => simp
    | cons next rest =>
        rw [List.takeWhile_cons_of_neg (by simp [notLess next List.mem_cons_self])]
        simp
  have drop : (front ++ back).dropWhile (fun other => other.less range) = back := by
    rw [List.dropWhile_append_of_pos after]
    cases back with
    | nil => rfl
    | cons next rest =>
        rw [List.dropWhile_cons_of_neg (by simp [notLess next List.mem_cons_self])]
  rw [take, drop]
  cases back with
  | nil => rfl
  | cons next rest => simp only [before next List.mem_cons_self, if_true]

theorem containsRangeChecked_iff {set : DisjointRangeSet} (separated : Separated set.ranges)
    (range : Range) :
    set.containsRangeChecked range = true ↔
      ∃ last, (upperBound set.ranges range).1.getLast? = some last ∧
        last.contains range = true := by
  rcases upperBound_spec separated range with ⟨-, -, greater⟩
  rw [containsRangeChecked]
  generalize upperBound set.ranges range = parts at greater ⊢
  rcases parts with ⟨before, after⟩
  dsimp only at greater ⊢
  cases found : before.getLast? with
  | some last => simp
  | none =>
      cases after with
      | nil => simp
      | cons next rest =>
          have less := greater next List.mem_cons_self
          simp only [Range.less, Range.contains, Bool.or_eq_true, decide_eq_true_eq,
            Bool.and_eq_true] at less ⊢
          constructor
          · intro contained
            omega
          · intro none
            rcases none with ⟨last, isLast, -⟩
            cases isLast

/-! ## What ranges have between them -/

/-- Two ranges merged have the property when one of them has it, and a range has it
when it contains one that does. -/
structure Additive (property : Range → Prop) : Prop where
  merge : ∀ {range other : Range}, range.start ≤ range.end_ → other.start ≤ other.end_ →
    range.canMerge other = true →
    (property (range.merge other) ↔ property range ∨ property other)
  contains : ∀ {range other : Range}, range.contains other = true → property other →
    property range

theorem has_additive (number : Nat) : Additive fun range => range.Has number where
  merge _ _ touches := by
    simp only [Range.canMerge, Bool.and_eq_true, decide_eq_true_eq] at touches
    simp only [Range.merge, Range.Has]
    omega
  contains inside has := by
    simp only [Range.contains, Bool.and_eq_true, decide_eq_true_eq] at inside
    exact ⟨Nat.le_trans inside.1 has.1, Nat.lt_of_lt_of_le has.2 inside.2⟩

/-! ## Inserting -/

theorem mergeFollowing_spec {newRange : Range} {after : List Range}
    (ordered : newRange.start ≤ newRange.end_) (separated : Separated after)
    (behind : ∀ other ∈ after, newRange.start ≤ other.start) :
    (mergeFollowing newRange after).1.start = newRange.start ∧
      (mergeFollowing newRange after).2.Sublist after ∧
      Separated ((mergeFollowing newRange after).1 :: (mergeFollowing newRange after).2) ∧
      ∀ {property : Range → Prop}, Additive property →
        ((property (mergeFollowing newRange after).1 ∨
            ∃ range ∈ (mergeFollowing newRange after).2, property range) ↔
          property newRange ∨ ∃ range ∈ after, property range) := by
  induction after generalizing newRange with
  | nil =>
      refine ⟨rfl, List.Sublist.refl _, separated_cons.mpr ⟨ordered, separated, ?_⟩,
        fun additive => Iff.rfl⟩
      intro other member
      cases member
  | cons next rest induction =>
      rcases separated_cons.mp separated with ⟨nextOrdered, separatedRest, apart⟩
      have nextBehind := behind next List.mem_cons_self
      rw [mergeFollowing]
      by_cases touches : newRange.canMerge next = true
      · rw [if_pos touches]
        have bounds : newRange.start ≤ next.end_ ∧ next.start ≤ newRange.end_ := by
          simpa [Range.canMerge] using touches
        have start : (newRange.merge next).start = newRange.start := Nat.min_eq_left nextBehind
        have mergedOrdered : (newRange.merge next).start ≤ (newRange.merge next).end_ := by
          simp only [Range.merge]
          omega
        have mergedBehind : ∀ other ∈ rest, (newRange.merge next).start ≤ other.start := by
          intro other member
          rw [start]
          exact behind other (List.mem_cons_of_mem next member)
        rcases induction mergedOrdered separatedRest mergedBehind with
          ⟨isStart, sublist, separatedMerged, covered⟩
        refine ⟨isStart.trans start, sublist.trans (List.sublist_cons_self _ _),
          separatedMerged, ?_⟩
        intro property additive
        rw [covered additive]
        simp only [additive.merge ordered nextOrdered touches, List.mem_cons,
          exists_eq_or_imp, or_assoc]
      · rw [if_neg touches]
        have beyond : newRange.end_ < next.start := by
          simp only [Range.canMerge, Bool.and_eq_true, decide_eq_true_eq] at touches
          omega
        refine ⟨rfl, List.Sublist.refl _, separated_cons.mpr ⟨ordered, separated, ?_⟩,
          fun additive => Iff.rfl⟩
        intro other member
        rcases List.mem_cons.mp member with isNext | inRest
        · exact isNext ▸ beyond
        · exact Nat.lt_of_lt_of_le beyond
            (Nat.le_trans nextOrdered (Nat.le_of_lt (apart other inRest)))

theorem emplace_separated {front back : List Range} {range : Range}
    (separated : Separated (front ++ range :: back)) :
    emplace range (front ++ back) = front ++ range :: back := by
  rcases separated_append.mp separated with ⟨separatedFront, separatedBack, apart⟩
  rcases separated_cons.mp separatedBack with ⟨ordered, -, behind⟩
  apply emplace_between
  · intro other member
    have before := apart other member range List.mem_cons_self
    have otherOrdered := separatedFront.ordered other member
    simp only [Range.less, Bool.or_eq_true, decide_eq_true_eq]
    omega
  · intro other member
    have after := behind other member
    simp only [Range.less, Bool.or_eq_true, decide_eq_true_eq]
    omega

theorem separated_merge_last {front after : List Range} {last newRange : Range}
    (separatedBefore : Separated (front ++ [last])) (separatedNew : Separated (newRange :: after))
    (apart : ∀ first ∈ front ++ [last], ∀ second ∈ after, first.end_ < second.start)
    (lastLater : last.start ≤ newRange.start) :
    Separated (front ++ newRange.merge last :: after) := by
  rcases separated_cons.mp separatedNew with ⟨newOrdered, separatedAfter, newApart⟩
  rcases separated_append.mp separatedBefore with ⟨separatedFront, -, frontApart⟩
  have isLast : last ∈ front ++ [last] := List.mem_append_right _ (List.mem_singleton_self _)
  have lastOrdered := separatedBefore.ordered last isLast
  have start : (newRange.merge last).start = last.start := Nat.min_eq_right lastLater
  refine separated_append.mpr ⟨separatedFront, separated_cons.mpr ⟨?_, separatedAfter, ?_⟩, ?_⟩
  · simp only [Range.merge]
    omega
  · intro other member
    have beyondNew := newApart other member
    have beyondLast := apart last isLast other member
    simp only [Range.merge]
    omega
  · intro first firstMember second secondMember
    rcases List.mem_cons.mp secondMember with isMerged | inAfter
    · rw [isMerged, start]
      exact frontApart first firstMember last (List.mem_singleton_self _)
    · exact apart first (List.mem_append_left _ firstMember) second inAfter

theorem separated_behind_last {front after : List Range} {last newRange : Range}
    (separatedBefore : Separated (front ++ [last])) (separatedNew : Separated (newRange :: after))
    (apart : ∀ first ∈ front ++ [last], ∀ second ∈ after, first.end_ < second.start)
    (beyond : last.end_ < newRange.start) :
    Separated ((front ++ [last]) ++ newRange :: after) := by
  rcases separated_append.mp separatedBefore with ⟨-, -, frontApart⟩
  have lastOrdered := separatedBefore.ordered last
    (List.mem_append_right _ (List.mem_singleton_self _))
  refine separated_append.mpr ⟨separatedBefore, separatedNew, ?_⟩
  intro first firstMember second secondMember
  have beforeNew : first.end_ < newRange.start := by
    rcases List.mem_append.mp firstMember with member | member
    · have beforeLast := frontApart first member last (List.mem_singleton_self _)
      omega
    · exact List.mem_singleton.mp member ▸ beyond
  rcases List.mem_cons.mp secondMember with isNew | inAfter
  · exact isNew ▸ beforeNew
  · exact apart first firstMember second inAfter

theorem mergePrevious_spec {before after : List Range} {newRange : Range}
    (separatedBefore : Separated before) (separatedNew : Separated (newRange :: after))
    (apart : ∀ first ∈ before, ∀ second ∈ after, first.end_ < second.start)
    (later : ∀ other ∈ before, other.start ≤ newRange.start) :
    Separated (mergePrevious before newRange after) ∧
      ∀ {property : Range → Prop}, Additive property →
        ((∃ range ∈ mergePrevious before newRange after, property range) ↔
          (∃ range ∈ before, property range) ∨ property newRange ∨
            ∃ range ∈ after, property range) := by
  rw [mergePrevious]
  rcases List.eq_nil_or_concat before with isEmpty | ⟨front, last, isConcat⟩
  · have placed : emplace newRange ([] ++ after) = [] ++ newRange :: after :=
      emplace_separated separatedNew
    rw [isEmpty, List.getLast?_nil]
    dsimp only
    rw [placed]
    refine ⟨separatedNew, fun additive => ?_⟩
    simp
  · rw [List.concat_eq_append] at isConcat
    rw [isConcat] at separatedBefore apart later
    have isLast : last ∈ front ++ [last] := List.mem_append_right _ (List.mem_singleton_self _)
    have lastOrdered := separatedBefore.ordered last isLast
    have newOrdered := (separated_cons.mp separatedNew).1
    rw [isConcat, List.getLast?_concat]
    dsimp only
    by_cases touches : newRange.canMerge last = true
    · have separated := separated_merge_last separatedBefore separatedNew apart (later last isLast)
      rw [if_pos touches, List.dropLast_concat, emplace_separated separated]
      refine ⟨separated, fun {property} additive => ?_⟩
      have both : property (newRange.merge last) ↔ property last ∨ property newRange :=
        (additive.merge newOrdered lastOrdered touches).trans Or.comm
      simp only [List.mem_append, List.mem_cons, or_and_right, exists_or, exists_eq_left,
        both, List.not_mem_nil, or_false, or_assoc]
    · have lastLater := later last isLast
      have beyond : last.end_ < newRange.start := by
        simp only [Range.canMerge, Bool.and_eq_true, decide_eq_true_eq] at touches
        omega
      have separated := separated_behind_last separatedBefore separatedNew apart beyond
      rw [if_neg touches, emplace_separated separated]
      refine ⟨separated, fun additive => ?_⟩
      simp only [List.mem_append, List.mem_cons, or_and_right, exists_or, exists_eq_left,
        List.not_mem_nil, or_false, or_assoc]

theorem insertChecked_additive {set : DisjointRangeSet} (separated : Separated set.ranges)
    {range : Range} (ordered : range.start ≤ range.end_) :
    Separated (set.insertChecked range).ranges ∧
      ∀ {property : Range → Prop}, Additive property →
        ((∃ stored ∈ (set.insertChecked range).ranges, property stored) ↔
          (∃ stored ∈ set.ranges, property stored) ∨ property range) := by
  rcases upperBound_spec separated range with ⟨joined, notGreater, greater⟩
  have containing := containsRangeChecked_iff separated range
  rw [insertChecked]
  by_cases contained : set.containsRangeChecked range = true
  · rw [if_pos contained]
    refine ⟨separated, fun additive => ⟨.inl, ?_⟩⟩
    intro either
    rcases either with stored | new
    · exact stored
    · rcases containing.mp contained with ⟨last, isLast, contains⟩
      have member : last ∈ set.ranges :=
        joined ▸ List.mem_append_left _ (List.mem_of_getLast? isLast)
      exact ⟨last, member, additive.contains contains new⟩
  · rw [if_neg contained]
    generalize upperBound set.ranges range = parts at joined notGreater greater ⊢
    rcases parts with ⟨before, after⟩
    dsimp only at joined notGreater greater ⊢
    rw [← joined] at separated
    rcases separated_append.mp separated with ⟨separatedBefore, separatedAfter, apart⟩
    have behind : ∀ other ∈ after, range.start ≤ other.start := by
      intro other member
      have less := greater other member
      simp only [Range.less, Bool.or_eq_true, decide_eq_true_eq, Bool.and_eq_true] at less
      omega
    rcases mergeFollowing_spec ordered separatedAfter behind with
      ⟨start, sublist, separatedMerged, covered⟩
    have later : ∀ other ∈ before, other.start ≤ (mergeFollowing range after).1.start := by
      intro other member
      have notLess := notGreater other member
      simp only [Range.less, Bool.or_eq_false_iff, decide_eq_false_iff_not] at notLess
      rw [start]
      omega
    rcases mergePrevious_spec separatedBefore separatedMerged
        (fun first firstMember second secondMember =>
          apart first firstMember second (sublist.subset secondMember)) later with
      ⟨separatedAll, coveredAll⟩
    refine ⟨separatedAll, fun additive => ?_⟩
    rw [coveredAll additive, covered additive, ← joined]
    simp only [List.mem_append, or_and_right, exists_or, or_assoc]
    exact or_congr_right Or.comm

theorem insertChecked_spec {set : DisjointRangeSet} (separated : Separated set.ranges)
    {range : Range} (ordered : range.start ≤ range.end_) :
    Separated (set.insertChecked range).ranges ∧
      ∀ number, (set.insertChecked range).Covers number ↔
        set.Covers number ∨ range.Has number := by
  rcases insertChecked_additive separated ordered with ⟨separatedAll, added⟩
  exact ⟨separatedAll, fun number => added (has_additive number)⟩

/-! ## No range ends later than the numbers that were put in -/

theorem mem_emplace {range other : Range} {ranges : List Range}
    (member : other ∈ emplace range ranges) : other = range ∨ other ∈ ranges := by
  have joined := List.takeWhile_append_dropWhile (p := fun other => other.less range)
    (l := ranges)
  rw [emplace] at member
  generalize ranges.takeWhile (fun other => other.less range) = before at joined member
  generalize ranges.dropWhile (fun other => other.less range) = after at joined member
  rw [← joined] at member ⊢
  cases after with
  | nil => simpa [or_comm] using member
  | cons next rest =>
      dsimp only at member
      split at member
      · simp only [List.mem_append, List.mem_cons] at member ⊢
        rcases member with inBefore | isNew | inAfter
        · exact .inr (.inl inBefore)
        · exact .inl isNew
        · exact .inr (.inr inAfter)
      · exact .inr member

theorem mergeFollowing_end_le {bound : Nat} {newRange : Range} {after : List Range}
    (newBound : newRange.end_ ≤ bound) (bounds : ∀ other ∈ after, other.end_ ≤ bound) :
    (mergeFollowing newRange after).1.end_ ≤ bound ∧
      ∀ other ∈ (mergeFollowing newRange after).2, other.end_ ≤ bound := by
  induction after generalizing newRange with
  | nil => exact ⟨newBound, bounds⟩
  | cons next rest induction =>
      rw [mergeFollowing]
      split
      · apply induction
        · exact Nat.max_le.mpr ⟨newBound, bounds next List.mem_cons_self⟩
        · exact fun other member => bounds other (List.mem_cons_of_mem next member)
      · exact ⟨newBound, bounds⟩

theorem emplace_end_le {bound : Nat} {range : Range} {front back : List Range}
    (newBound : range.end_ ≤ bound) (frontBounds : ∀ other ∈ front, other.end_ ≤ bound)
    (backBounds : ∀ other ∈ back, other.end_ ≤ bound) :
    ∀ other ∈ emplace range (front ++ back), other.end_ ≤ bound := by
  intro other member
  rcases mem_emplace member with isNew | isOld
  · exact isNew ▸ newBound
  · rcases List.mem_append.mp isOld with inFront | inBack
    · exact frontBounds other inFront
    · exact backBounds other inBack

theorem insertChecked_end_le {bound : Nat} {set : DisjointRangeSet} {range : Range}
    (separated : Separated set.ranges) (newBound : range.end_ ≤ bound)
    (bounds : ∀ other ∈ set.ranges, other.end_ ≤ bound) :
    ∀ other ∈ (set.insertChecked range).ranges, other.end_ ≤ bound := by
  rcases upperBound_spec separated range with ⟨joined, -, -⟩
  unfold insertChecked mergePrevious
  split
  · exact bounds
  generalize upperBound set.ranges range = parts at joined ⊢
  rcases parts with ⟨before, after⟩
  dsimp only at joined ⊢
  rw [← joined] at bounds
  have beforeBounds : ∀ other ∈ before, other.end_ ≤ bound := fun other member =>
    bounds other (List.mem_append_left _ member)
  rcases mergeFollowing_end_le newBound (fun other member =>
    bounds other (List.mem_append_right before member)) with ⟨mergedBound, afterBounds⟩
  split
  · exact emplace_end_le mergedBound beforeBounds afterBounds
  · rename_i last isLast
    have lastBound := beforeBounds last (List.mem_of_getLast? isLast)
    split
    · exact emplace_end_le (Nat.max_le.mpr ⟨mergedBound, lastBound⟩)
        (fun other member => beforeBounds other (List.dropLast_subset _ member)) afterBounds
    · exact emplace_end_le mergedBound beforeBounds afterBounds

/-! ## Finding the end of a range -/

theorem endOfContainingRange_eq_some {set : DisjointRangeSet}
    (separated : Separated set.ranges) {start last : Nat}
    (fits : start + 1 < 18446744073709551616)
    (found : set.endOfContainingRange start = some last) :
    ∃ range ∈ set.ranges, range.Has start ∧ range.end_ = last := by
  rcases upperBound_spec separated ⟨start, start + 1⟩ with ⟨joined, -, -⟩
  simp only [endOfContainingRange, Nat.mod_eq_of_lt fits] at found
  cases before : (upperBound set.ranges ⟨start, start + 1⟩).1.getLast? with
  | none => simp [before] at found
  | some range =>
      simp only [before] at found
      split at found
      · rename_i contains
        simp only [Range.contains, Bool.and_eq_true, decide_eq_true_eq] at contains
        exact ⟨range, joined ▸ List.mem_append_left _ (List.mem_of_getLast? before), contains,
          Option.some.inj found⟩
      · contradiction

theorem not_covers_of_endOfContainingRange {set : DisjointRangeSet}
    (separated : Separated set.ranges) {start : Nat}
    (fits : start + 1 < 18446744073709551616)
    (notFound : set.endOfContainingRange start = none) : ¬ set.Covers start := by
  intro covered
  rcases covered with ⟨range, member, has⟩
  rcases upperBound_spec separated ⟨start, start + 1⟩ with ⟨joined, notGreater, greater⟩
  simp only [endOfContainingRange, Nat.mod_eq_of_lt fits] at notFound
  generalize upperBound set.ranges ⟨start, start + 1⟩ = parts at joined notGreater greater notFound
  rcases parts with ⟨before, after⟩
  dsimp only at joined notGreater greater notFound
  rw [Range.Has] at has
  rw [← joined] at member separated
  rcases separated_append.mp separated with ⟨separatedBefore, -, apart⟩
  rcases List.mem_append.mp member with inBefore | inAfter
  · rcases List.eq_nil_or_concat before with isEmpty | ⟨front, last, isConcat⟩
    · simp [isEmpty] at inBefore
    · rw [List.concat_eq_append] at isConcat
      rw [isConcat, List.getLast?_concat] at notFound
      dsimp only at notFound
      have notContains : ¬ (last.start ≤ start ∧ start + 1 ≤ last.end_) := by
        intro contains
        rw [if_pos (by simp [Range.contains, contains])] at notFound
        contradiction
      have notGreaterLast := notGreater last (by simp [isConcat])
      simp only [Range.less, Bool.or_eq_false_iff, decide_eq_false_iff_not] at notGreaterLast
      rw [isConcat] at inBefore separatedBefore
      rcases List.mem_append.mp inBefore with inFront | isLast
      · have earlier := (separated_append.mp separatedBefore).2.2 range inFront last
          (List.mem_singleton_self _)
        omega
      · rw [List.mem_singleton.mp isLast] at has
        omega
  · have less := greater range inAfter
    simp only [Range.less, Bool.or_eq_true, decide_eq_true_eq, Bool.and_eq_true] at less
    omega

end DisjointRangeSet

end Cuttlefish.Io
