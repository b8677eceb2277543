import Cuttlefish.Io.SerializeDisjointRangeSet
import Mathlib.Data.List.Sort

/-! # The union of inserted ranges

What a `DisjointRangeSet` of `io/disjoint_range_set.cc` holds after any number of
calls of `InsertRange`: which numbers are in it, that the order of the calls makes no
difference, and what the lookups answer. -/

namespace Cuttlefish.Io

namespace Range

/-- A place between the bounds of the range, both included, on a scale that has one
place for each number and one between each two numbers. -/
def Reaches (range : Range) (place : Nat) : Prop :=
  2 * range.start ≤ place ∧ place ≤ 2 * range.end_

end Range

namespace DisjointRangeList

def Ordered (inserted : DisjointRangeList) : Prop := ∀ range ∈ inserted, range.1 ≤ range.2

instance (inserted : DisjointRangeList) : Decidable inserted.Ordered :=
  inferInstanceAs (Decidable (∀ range ∈ inserted, range.1 ≤ range.2))

/-- The number is in the union of the half-open ranges. -/
def Covers (inserted : DisjointRangeList) (number : Nat) : Prop :=
  ∃ range ∈ inserted, range.1 ≤ number ∧ number < range.2

/-- An inserted range without numbers is at or in one that has some. -/
def Attached (inserted : DisjointRangeList) : Prop :=
  ∀ range ∈ inserted, range.1 = range.2 →
    ∃ other ∈ inserted, other.1 < other.2 ∧ other.1 ≤ range.1 ∧ range.1 ≤ other.2

theorem Ordered.of_cons {first : Nat × Nat} {rest : DisjointRangeList}
    (ordered : Ordered (first :: rest)) : first.1 ≤ first.2 ∧ Ordered rest :=
  ⟨ordered first List.mem_cons_self,
    fun range member => ordered range (List.mem_cons_of_mem first member)⟩

end DisjointRangeList

namespace DisjointRangeSet

/-! ## Ranges that do not touch -/

namespace Separated

theorem eq_or_apart {ranges : List Range} (separated : Separated ranges)
    {first second : Range} (isFirst : first ∈ ranges) (isSecond : second ∈ ranges) :
    first = second ∨ first.end_ < second.start ∨ second.end_ < first.start := by
  have all := List.Pairwise.forall_of_forall_of_flip
    (R := fun first second : Range =>
      first = second ∨ first.end_ < second.start ∨ second.end_ < first.start)
    (fun range _ => .inl rfl) (separated.apart.imp fun less => .inr (.inl less))
    (separated.apart.imp fun less => .inr (.inr less))
  exact all isFirst isSecond

theorem contains_of_has {ranges : List Range} (separated : Separated ranges)
    {start end_ : Nat} (less : start < end_)
    (covered : ∀ number, start ≤ number → number < end_ →
      ∃ range ∈ ranges, range.Has number) :
    ∃ range ∈ ranges, range.contains ⟨start, end_⟩ = true := by
  rcases covered start (Nat.le_refl _) less with ⟨range, member, has⟩
  refine ⟨range, member, ?_⟩
  simp only [Range.contains, Bool.and_eq_true, decide_eq_true_eq]
  refine ⟨has.1, ?_⟩
  by_contra short
  have inside : range.end_ < end_ := Nat.lt_of_not_le short
  rcases covered range.end_ (Nat.le_of_lt has.2) inside with ⟨other, isOther, hasEnd⟩
  have ordered := separated.ordered range member
  rw [Range.Has] at has hasEnd
  rcases separated.eq_or_apart member isOther with same | before | behind
  · rw [← same] at hasEnd
    omega
  · omega
  · omega

theorem contains_of_reaches {ranges : List Range} (separated : Separated ranges)
    {start end_ : Nat} (ordered : start ≤ end_)
    (reached : ∀ place, 2 * start ≤ place → place ≤ 2 * end_ →
      ∃ range ∈ ranges, range.Reaches place) :
    ∃ range ∈ ranges, range.contains ⟨start, end_⟩ = true := by
  rcases reached (2 * start) (Nat.le_refl _) (by omega) with ⟨range, member, reaches⟩
  refine ⟨range, member, ?_⟩
  simp only [Range.contains, Bool.and_eq_true, decide_eq_true_eq]
  unfold Range.Reaches at reaches reached
  refine ⟨by omega, ?_⟩
  by_contra short
  rcases reached (2 * range.end_ + 1) (by omega) (by omega) with ⟨other, isOther, behind⟩
  rcases separated.eq_or_apart member isOther with same | before | after
  · rw [← same] at behind
    omega
  · omega
  · omega

theorem exists_contains {left right : List Range} (separatedLeft : Separated left)
    (separatedRight : Separated right)
    (same : ∀ place, (∃ range ∈ left, range.Reaches place) ↔
      ∃ range ∈ right, range.Reaches place)
    {range : Range} (member : range ∈ left) :
    ∃ other ∈ right, other.contains range = true := by
  apply separatedRight.contains_of_reaches (separatedLeft.ordered range member)
  intro place low high
  exact (same place).mp ⟨range, member, low, high⟩

theorem mem_of_reaches {left right : List Range} (separatedLeft : Separated left)
    (separatedRight : Separated right)
    (same : ∀ place, (∃ range ∈ left, range.Reaches place) ↔
      ∃ range ∈ right, range.Reaches place)
    {range : Range} (member : range ∈ left) : range ∈ right := by
  rcases exists_contains separatedLeft separatedRight same member with
    ⟨other, isOther, outer⟩
  rcases exists_contains separatedRight separatedLeft (fun place => (same place).symm)
    isOther with ⟨third, isThird, outermost⟩
  have ordered := separatedLeft.ordered range member
  simp only [Range.contains, Bool.and_eq_true, decide_eq_true_eq] at outer outermost
  rcases separatedLeft.eq_or_apart member isThird with isSame | before | behind
  · rw [← isSame] at outermost
    have start : other.start = range.start := Nat.le_antisymm outer.1 outermost.1
    have end_ : other.end_ = range.end_ := Nat.le_antisymm outermost.2 outer.2
    have isRange : other = range := congrArg₂ Range.mk start end_
    exact isRange ▸ isOther
  · omega
  · omega

theorem sorted {ranges : List Range} (separated : Separated ranges) :
    ranges.Pairwise fun first second => first.start < second.start := by
  apply List.Pairwise.imp_of_mem _ separated.apart
  intro first second isFirst _ less
  exact Nat.lt_of_le_of_lt (separated.ordered first isFirst) less

theorem eq_of_reaches {left right : List Range} (separatedLeft : Separated left)
    (separatedRight : Separated right)
    (same : ∀ place, (∃ range ∈ left, range.Reaches place) ↔
      ∃ range ∈ right, range.Reaches place) : left = right := by
  have irreflexive : Std.Irrefl fun first second : Range => first.start < second.start :=
    ⟨fun range => Nat.lt_irrefl range.start⟩
  have antisymmetric : Std.Antisymm fun first second : Range => first.start < second.start :=
    ⟨fun first second less greater => absurd less (Nat.lt_asymm greater)⟩
  apply List.Pairwise.eq_of_mem_iff separatedLeft.sorted separatedRight.sorted
  intro range
  constructor
  · exact mem_of_reaches separatedLeft separatedRight same
  · exact mem_of_reaches separatedRight separatedLeft fun place => (same place).symm

end Separated

/-! ## What the set holds after inserting -/

theorem reaches_additive (place : Nat) : Additive fun range => range.Reaches place where
  merge ordered orderedOther touches := by
    simp only [Range.canMerge, Bool.and_eq_true, decide_eq_true_eq] at touches
    simp only [Range.merge, Range.Reaches]
    omega
  contains inside reaches := by
    simp only [Range.contains, Bool.and_eq_true, decide_eq_true_eq] at inside
    rw [Range.Reaches] at reaches ⊢
    omega

theorem insertRanges_additive {set : DisjointRangeSet} (separated : Separated set.ranges)
    {inserted : DisjointRangeList} (ordered : inserted.Ordered) :
    ∃ result, insertRanges set inserted = .ok result ∧ Separated result.ranges ∧
      ∀ {property : Range → Prop}, Additive property →
        ((∃ stored ∈ result.ranges, property stored) ↔
          (∃ stored ∈ set.ranges, property stored) ∨
            ∃ range ∈ inserted, property ⟨range.1, range.2⟩) := by
  induction inserted generalizing set with
  | nil => exact ⟨set, rfl, separated, fun additive => by simp⟩
  | cons first rest induction =>
      rcases first with ⟨start, end_⟩
      rcases ordered.of_cons with ⟨firstOrdered, restOrdered⟩
      have firstRange : (Range.mk start end_).start ≤ (Range.mk start end_).end_ := firstOrdered
      rcases insertChecked_additive separated firstRange with ⟨separatedOne, addedOne⟩
      rcases induction separatedOne restOrdered with ⟨result, isOk, separatedAll, added⟩
      refine ⟨result, ?_, separatedAll, ?_⟩
      · have inserted : set.insertRange start end_ =
            .ok (set.insertChecked ⟨start, end_⟩) := by
          simp only [insertRange, checkRange, firstOrdered, if_true]
          rfl
        rw [insertRanges, inserted]
        exact isOk
      · intro property additive
        rw [added additive, addedOne additive]
        simp only [List.mem_cons, exists_eq_or_imp, or_assoc]

theorem separated_empty : Separated empty.ranges where
  ordered range member := by cases member
  apart := List.Pairwise.nil

theorem insertRanges_empty {inserted : DisjointRangeList} (ordered : inserted.Ordered) :
    ∃ set, insertRanges empty inserted = .ok set ∧ Separated set.ranges ∧
      ∀ {property : Range → Prop}, Additive property →
        ((∃ stored ∈ set.ranges, property stored) ↔
          ∃ range ∈ inserted, property ⟨range.1, range.2⟩) := by
  rcases insertRanges_additive separated_empty ordered with ⟨set, isOk, separated, added⟩
  refine ⟨set, isOk, separated, fun additive => ?_⟩
  rw [added additive]
  simp [empty]

theorem covers_additive {set : DisjointRangeSet} {inserted : DisjointRangeList}
    (added : ∀ {property : Range → Prop}, Additive property →
      ((∃ stored ∈ set.ranges, property stored) ↔
        ∃ range ∈ inserted, property ⟨range.1, range.2⟩)) (number : Nat) :
    set.Covers number ↔ inserted.Covers number :=
  added (has_additive number)

/-! ## The set is the union -/

theorem containsRangeChecked_iff_exists {set : DisjointRangeSet}
    (separated : Separated set.ranges) {range : Range} (ordered : range.start ≤ range.end_) :
    set.containsRangeChecked range = true ↔
      ∃ stored ∈ set.ranges, stored.contains range = true := by
  rw [containsRangeChecked_iff separated range]
  rcases upperBound_spec separated range with ⟨joined, notGreater, greater⟩
  generalize upperBound set.ranges range = parts at joined notGreater greater ⊢
  rcases parts with ⟨before, after⟩
  dsimp only at joined notGreater greater ⊢
  rw [← joined] at separated ⊢
  constructor
  · intro found
    rcases found with ⟨last, isLast, contains⟩
    exact ⟨last, List.mem_append_left _ (List.mem_of_getLast? isLast), contains⟩
  · intro found
    rcases found with ⟨stored, member, contains⟩
    refine ⟨stored, ?_, contains⟩
    simp only [Range.contains, Bool.and_eq_true, decide_eq_true_eq] at contains
    have inBefore : stored ∈ before := by
      rcases List.mem_append.mp member with inBefore | inAfter
      · exact inBefore
      · have less := greater stored inAfter
        simp only [Range.less, Bool.or_eq_true, decide_eq_true_eq, Bool.and_eq_true] at less
        omega
    rcases List.eq_nil_or_concat before with isEmpty | ⟨front, last, isConcat⟩
    · rw [isEmpty] at inBefore
      cases inBefore
    · rw [List.concat_eq_append] at isConcat
      rw [isConcat] at inBefore separated notGreater ⊢
      rw [List.getLast?_concat]
      rcases List.mem_append.mp inBefore with inFront | isLast
      · have apart := (separated_append.mp (separated_append.mp separated).1).2.2 stored
          inFront last (List.mem_singleton_self last)
        have notLess := notGreater last (List.mem_append_right _ (List.mem_singleton_self last))
        simp only [Range.less, Bool.or_eq_false_iff, decide_eq_false_iff_not] at notLess
        omega
      · rw [List.mem_singleton.mp isLast]

theorem containsRange_iff {set : DisjointRangeSet} (separated : Separated set.ranges)
    {start end_ : Nat} (less : start < end_) :
    ∃ answer, set.containsRange start end_ = .ok answer ∧
      (answer = true ↔ ∀ number, start ≤ number → number < end_ → set.Covers number) := by
  have ordered : start ≤ end_ := Nat.le_of_lt less
  refine ⟨set.containsRangeChecked ⟨start, end_⟩, ?_, ?_⟩
  · simp only [containsRange, checkRange, ordered, if_true]
    rfl
  rw [@containsRangeChecked_iff_exists set separated ⟨start, end_⟩ ordered]
  constructor
  · intro found number low high
    rcases found with ⟨stored, member, contains⟩
    exact ⟨stored, member, (has_additive number).contains contains ⟨low, high⟩⟩
  · exact separated.contains_of_has less

/-- The set is the union of the inserted ranges, in ranges that have numbers. -/
structure RepresentsUnion (set : DisjointRangeSet) (inserted : DisjointRangeList) : Prop where
  separated : Separated set.ranges
  nonempty : ∀ range ∈ set.ranges, range.start < range.end_
  covers : ∀ number, set.Covers number ↔ inserted.Covers number
  contains : ∀ start end_, start < end_ →
    ∃ answer, set.containsRange start end_ = .ok answer ∧
      (answer = true ↔
        ∀ number, start ≤ number → number < end_ → inserted.Covers number)

section Reached

variable {set : DisjointRangeSet} {inserted : DisjointRangeList}
  (separated : Separated set.ranges) (ordered : inserted.Ordered)
  (reached : ∀ place, (∃ stored ∈ set.ranges, stored.Reaches place) ↔
    ∃ range ∈ inserted, Range.Reaches ⟨range.1, range.2⟩ place)

include reached in
theorem attached_of_nonempty (nonempty : ∀ stored ∈ set.ranges, stored.start < stored.end_) :
    inserted.Attached := by
  unfold Range.Reaches at reached
  intro range member isEmpty
  rcases (reached (2 * range.1)).mpr ⟨range, member, by dsimp only; omega⟩ with
    ⟨stored, isStored, low, high⟩
  have storedNonempty := nonempty stored isStored
  by_cases more : range.1 < stored.end_
  · rcases (reached (2 * range.1 + 1)).mp ⟨stored, isStored, by omega⟩ with
      ⟨other, isOther, lowOther, highOther⟩
    dsimp only at lowOther highOther
    exact ⟨other, isOther, by omega⟩
  · rcases (reached (2 * range.1 - 1)).mp ⟨stored, isStored, by omega⟩ with
      ⟨other, isOther, lowOther, highOther⟩
    dsimp only at lowOther highOther
    exact ⟨other, isOther, by omega⟩

include separated ordered reached in
theorem inserted_eq_of_empty {stored : Range} (isStored : stored ∈ set.ranges)
    (isEmpty : stored.end_ ≤ stored.start) {range : Nat × Nat} (member : range ∈ inserted)
    (low : range.1 ≤ stored.start) (high : stored.start ≤ range.2) :
    range.1 = stored.start ∧ range.2 = stored.start := by
  have contained := separated.contains_of_reaches (ordered range member)
    fun place above below => (reached place).mpr ⟨range, member, above, below⟩
  rcases contained with ⟨other, isOther, contains⟩
  simp only [Range.contains, Bool.and_eq_true, decide_eq_true_eq] at contains
  have storedOrdered := separated.ordered stored isStored
  rcases separated.eq_or_apart isStored isOther with same | before | behind
  · rw [← same] at contains
    omega
  · omega
  · omega

include separated ordered reached in
theorem nonempty_iff :
    (∀ stored ∈ set.ranges, stored.start < stored.end_) ↔ inserted.Attached := by
  constructor
  · exact attached_of_nonempty reached
  · intro attached stored isStored
    by_contra notLess
    have isEmpty : stored.end_ ≤ stored.start := Nat.le_of_not_lt notLess
    have storedOrdered := separated.ordered stored isStored
    have only := fun {range : Nat × Nat} (member : range ∈ inserted) =>
      inserted_eq_of_empty separated ordered reached isStored isEmpty member
    have atStart : stored.Reaches (2 * stored.start) := by
      rw [Range.Reaches]
      omega
    rcases (reached (2 * stored.start)).mp ⟨stored, isStored, atStart⟩ with
      ⟨range, member, low, high⟩
    dsimp only at low high
    have bounds := only member (by omega) (by omega)
    rcases attached range member (by omega) with ⟨other, isOther, less, lowOther, highOther⟩
    have otherBounds := only isOther (by omega) (by omega)
    omega

end Reached

/-- Inserting ranges one after another gives their union, in ranges that have numbers,
unless an empty range is left on its own. -/
theorem insertRanges_representsUnion_iff (inserted : DisjointRangeList)
    (ordered : inserted.Ordered) :
    ∃ set, insertRanges empty inserted = .ok set ∧
      (set.RepresentsUnion inserted ↔ inserted.Attached) := by
  rcases insertRanges_empty ordered with ⟨set, isOk, separated, added⟩
  have covers := covers_additive added
  refine ⟨set, isOk, ?_⟩
  rw [← nonempty_iff separated ordered fun place => added (reaches_additive place)]
  constructor
  · exact RepresentsUnion.nonempty
  · intro nonempty
    refine ⟨separated, nonempty, covers, ?_⟩
    intro start end_ less
    simp only [← covers]
    exact containsRange_iff separated less

theorem insertRanges_representsUnion_iff_example :
    DisjointRangeList.Ordered [(5, 5), (3, 5)] ∧
      ∃ set, insertRanges empty [(5, 5), (3, 5)] = .ok set ∧
        (set.RepresentsUnion [(5, 5), (3, 5)] ↔
          DisjointRangeList.Attached [(5, 5), (3, 5)]) :=
  ⟨by decide, insertRanges_representsUnion_iff [(5, 5), (3, 5)] (by decide)⟩

/-- An empty range that is inserted on its own is stored. -/
theorem empty_range_stored :
    ¬ ∀ inserted : DisjointRangeList, inserted.Ordered →
      ∃ set, insertRanges empty inserted = .ok set ∧ set.RepresentsUnion inserted := by
  intro always
  rcases always [(5, 5)] (by decide) with ⟨set, isOk, represents⟩
  have isSet : insertRanges empty [(5, 5)] = .ok ⟨[⟨5, 5⟩]⟩ := rfl
  rw [isSet] at isOk
  have nonempty := represents.nonempty ⟨5, 5⟩
  rw [← Except.ok.inj isOk] at nonempty
  exact absurd (nonempty List.mem_cons_self) (by decide)

/-! ## Every order gives the same set -/

/-- The same ranges in another order give the same set, and the set is read back from
its message as it was. -/
theorem insertRanges_perm {inserted other : DisjointRangeList} (ordered : inserted.Ordered)
    (perm : inserted.Perm other) :
    ∃ set, insertRanges empty inserted = .ok set ∧ insertRanges empty other = .ok set ∧
      ∀ codec : MessageCodec DisjointRangeList,
        codec.parseFromString ((codec.serializeToString set.allRanges).getD []) =
            (true, set.allRanges) →
          deserialize codec (set.serialize codec) = .ok set := by
  have orderedOther : other.Ordered := fun range member => ordered range (perm.mem_iff.mpr member)
  rcases insertRanges_empty ordered with ⟨set, isOk, separated, added⟩
  rcases insertRanges_empty orderedOther with ⟨set', isOk', separated', added'⟩
  have same : set' = set := by
    apply congrArg DisjointRangeSet.mk
    apply Separated.eq_of_reaches separated' separated
    intro place
    rw [added (reaches_additive place), added' (reaches_additive place)]
    simp only [perm.mem_iff]
  refine ⟨set, isOk, ?_, ?_⟩
  · rw [isOk', same]
  · intro codec roundTrip
    simp only [deserialize, serialize, roundTrip]
    exact @insertRanges_separated [] set.ranges separated

theorem insertRanges_perm_example :
    ∃ set, insertRanges empty [(7, 9), (1, 4), (4, 5)] = .ok set ∧
      insertRanges empty [(4, 5), (7, 9), (1, 4)] = .ok set ∧
      deserialize DisjointRangeList.wire (set.serialize DisjointRangeList.wire) = .ok set := by
  have perm : List.Perm [(7, 9), (1, 4), (4, 5)] [(4, 5), (7, 9), (1, 4)] := by decide
  rcases @insertRanges_perm [(7, 9), (1, 4), (4, 5)] _ (by decide) perm with
    ⟨set, isOk, isOk', readBack⟩
  have isSet : insertRanges empty [(7, 9), (1, 4), (4, 5)] = .ok ⟨[⟨1, 5⟩, ⟨7, 9⟩]⟩ := rfl
  rw [isSet] at isOk
  refine ⟨set, isSet.trans isOk, isOk', readBack DisjointRangeList.wire ?_⟩
  rw [← Except.ok.inj isOk]
  decide +kernel

/-! ## The end of the range a number is in -/

/-- The lookup finds a range when the number is in the union, and its answer is the end
of the only stored range that has the number. -/
structure FindsEnd (set : DisjointRangeSet) (inserted : DisjointRangeList) (number : Nat) :
    Prop where
  found : (set.endOfContainingRange number).isSome = true ↔ inserted.Covers number
  isEnd : ∀ last, set.endOfContainingRange number = some last →
    ∃ range ∈ set.ranges, range.Has number ∧ range.end_ = last ∧
      ∀ other ∈ set.ranges, other.Has number → other = range

theorem findsEnd_of_fits {set : DisjointRangeSet} (separated : Separated set.ranges)
    {inserted : DisjointRangeList}
    (covers : ∀ number, set.Covers number ↔ inserted.Covers number)
    {number : Nat} (fits : number + 1 < 18446744073709551616) :
    set.FindsEnd inserted number where
  found := by
    rw [← covers]
    constructor
    · intro isSome
      rcases Option.isSome_iff_exists.mp isSome with ⟨last, found⟩
      rcases endOfContainingRange_eq_some separated fits found with ⟨range, member, has, -⟩
      exact ⟨range, member, has⟩
    · intro covered
      cases found : set.endOfContainingRange number with
      | none => exact absurd covered (not_covers_of_endOfContainingRange separated fits found)
      | some last => rfl
  isEnd last found := by
    rcases endOfContainingRange_eq_some separated fits found with ⟨range, member, has, isEnd⟩
    refine ⟨range, member, has, isEnd, ?_⟩
    intro other isOther hasOther
    rw [Range.Has] at has hasOther
    rcases separated.eq_or_apart isOther member with same | before | behind
    · exact same
    · omega
    · omega

theorem endOfContainingRange_max {front : List Range} {last : Range}
    (ends : ∀ range ∈ front ++ [last], range.start ≤ 18446744073709551615) :
    endOfContainingRange ⟨front ++ [last]⟩ 18446744073709551615 = some last.end_ := by
  have notGreater : ∀ range ∈ front ++ [last],
      (!(Range.mk 18446744073709551615 0).less range) = true := by
    intro range member
    have bound := ends range member
    simp only [Range.less, Bool.not_eq_true', Bool.or_eq_false_iff, decide_eq_false_iff_not,
      Bool.and_eq_false_iff]
    omega
  have taken : ((front ++ [last]) ++ []).takeWhile
      (fun range => !(Range.mk 18446744073709551615 0).less range) =
        (front ++ [last]) ++ [] :=
    List.takeWhile_append_of_pos notGreater
  rw [List.append_nil] at taken
  have contains : last.contains ⟨18446744073709551615, 0⟩ = true := by
    have bound := ends last (by simp)
    simp [Range.contains, bound]
  simp only [endOfContainingRange, upperBound, Nat.reduceAdd, Nat.reduceMod, taken,
    List.getLast?_concat, contains, if_true]

theorem exists_additive : Additive fun _ => True where
  merge _ _ _ := by simp
  contains _ _ := trivial

theorem endsAfter_additive (bound : Nat) : Additive fun range => bound < range.end_ where
  merge _ _ _ := by
    simp only [Range.merge]
    omega
  contains inside after := by
    simp only [Range.contains, Bool.and_eq_true, decide_eq_true_eq] at inside
    exact Nat.lt_of_lt_of_le after inside.2

theorem ranges_eq_nil_iff {set : DisjointRangeSet} {inserted : DisjointRangeList}
    (added : ∀ {property : Range → Prop}, Additive property →
      ((∃ stored ∈ set.ranges, property stored) ↔
        ∃ range ∈ inserted, property ⟨range.1, range.2⟩)) :
    set.ranges = [] ↔ inserted = [] := by
  have exists_ := not_congr (added exists_additive)
  simpa [List.eq_nil_iff_forall_not_mem] using exists_

theorem findsEnd_of_nothing {set : DisjointRangeSet} (noRanges : set.ranges = []) (number : Nat) :
    set.FindsEnd [] number := by
  have notFound : set.endOfContainingRange number = none := by
    simp [endOfContainingRange, upperBound, noRanges]
  constructor
  · rw [notFound]
    simp [DisjointRangeList.Covers]
  · intro last found
    rw [notFound] at found
    cases found

theorem isSome_endOfContainingRange_max {set : DisjointRangeSet} (nonempty : set.ranges ≠ [])
    (ends : ∀ stored ∈ set.ranges, stored.start ≤ 18446744073709551615) :
    (set.endOfContainingRange 18446744073709551615).isSome = true := by
  rcases List.eq_nil_or_concat set.ranges with isEmpty | ⟨front, last, isConcat⟩
  · exact absurd isEmpty nonempty
  · rw [List.concat_eq_append] at isConcat
    rw [isConcat] at ends
    have found := endOfContainingRange_max ends
    rw [← isConcat] at found
    rw [found]
    rfl

/-- The lookup is right for all numbers but the greatest, for which it is right only in a
set without ranges. -/
theorem findsEnd_iff (inserted : DisjointRangeList) (ordered : inserted.Ordered)
    (fits : ∀ range ∈ inserted, range.2 < 18446744073709551616) (number : Nat)
    (isNumber : number < 18446744073709551616) :
    ∃ set, insertRanges empty inserted = .ok set ∧
      (set.FindsEnd inserted number ↔
        number + 1 < 18446744073709551616 ∨ inserted = []) := by
  rcases insertRanges_empty ordered with ⟨set, isOk, separated, added⟩
  have covers := covers_additive added
  refine ⟨set, isOk, ?_⟩
  by_cases below : number + 1 < 18446744073709551616
  · exact iff_of_true (findsEnd_of_fits separated covers below) (.inl below)
  · have isMax : number = 18446744073709551615 := by omega
    subst isMax
    rw [or_iff_right below]
    have ends : ∀ stored ∈ set.ranges, stored.start ≤ 18446744073709551615 := by
      intro stored member
      by_contra after
      have storedOrdered := separated.ordered stored member
      rcases (added (endsAfter_additive 18446744073709551615)).mp ⟨stored, member, by omega⟩ with
        ⟨range, isInserted, tooLate⟩
      have fitting := fits range isInserted
      dsimp only at tooLate
      omega
    constructor
    · intro findsEnd
      apply (ranges_eq_nil_iff added).mp
      by_contra nonempty
      rcases findsEnd.found.mp (isSome_endOfContainingRange_max nonempty ends) with
        ⟨range, member, -, less⟩
      have fitting := fits range member
      omega
    · intro isEmpty
      subst isEmpty
      exact findsEnd_of_nothing ((ranges_eq_nil_iff added).mpr rfl) _

theorem findsEnd_iff_example :
    ∃ set, insertRanges empty [(0, 100)] = .ok set ∧
      (set.FindsEnd [(0, 100)] 18446744073709551615 ↔
        18446744073709551615 + 1 < 18446744073709551616 ∨
          ([(0, 100)] : DisjointRangeList) = []) :=
  findsEnd_iff [(0, 100)] (by decide) (by decide) 18446744073709551615 (by decide)

/-- The greatest number is found in a range that ends long before it. -/
theorem greatest_number_found :
    ¬ ∀ (inserted : DisjointRangeList) (number : Nat), inserted.Ordered →
      (∀ range ∈ inserted, range.2 < 18446744073709551616) → number < 18446744073709551616 →
        ∃ set, insertRanges empty inserted = .ok set ∧ set.FindsEnd inserted number := by
  intro always
  rcases always [(0, 100)] 18446744073709551615 (by decide) (by decide) (by decide) with
    ⟨set, isOk, findsEnd⟩
  have isSet : insertRanges empty [(0, 100)] = .ok ⟨[⟨0, 100⟩]⟩ := rfl
  rw [isSet] at isOk
  have found := findsEnd.found
  have isEnd := @endOfContainingRange_max [] ⟨0, 100⟩ (by decide)
  rw [List.nil_append] at isEnd
  rw [← Except.ok.inj isOk, isEnd] at found
  rcases found.mp rfl with ⟨range, member, -, less⟩
  rw [List.mem_singleton.mp member] at less
  exact absurd less (by decide)

end DisjointRangeSet

end Cuttlefish.Io
