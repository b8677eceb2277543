import Mathlib.Data.Int.Order.Basic
import Mathlib.Data.List.Basic
import Cuttlefish.Foundation.OrderedMap
import Cuttlefish.Foundation.StepFunction

/-! # Which chunks of an artifact have arrived

`chunkState` of `userartifacts.go`. The items of its B-tree hold the offsets where
the file changes between updated and not updated. -/

namespace Cuttlefish.UserArtifacts

open StepFunction

structure ChunkState where
  fileSize : Int
  items : OrderedMap Bool
  deriving DecidableEq

namespace ChunkState

/-- `NewChunkState`. -/
def new (fileSize : Int) : ChunkState where
  fileSize := fileSize
  items := .empty

def getItemOrPrev (items : OrderedMap Bool) (offset : Int) : Option (Int × Bool) :=
  items.floor offset

def getItemOrNext (items : OrderedMap Bool) (offset : Int) : Option (Int × Bool) :=
  items.ceiling offset

/-- The loop that removes the items from `start` to `end_`. It makes at most as many
rounds as there are items. -/
def deleteBetween (start end_ : Int) : Nat → OrderedMap Bool → OrderedMap Bool
  | 0, items => items
  | rounds + 1, items =>
      match getItemOrNext items start with
      | none => items
      | some item =>
          if item.1 ≤ end_ then deleteBetween start end_ rounds (items.erase item.1) else items

def markUpdated (items : OrderedMap Bool) (start end_ : Int) : OrderedMap Bool :=
  let items := deleteBetween start end_ items.entries.length items
  let items :=
    match getItemOrPrev items start with
    | some (_, true) => items
    | _ => items.insert start true
  match getItemOrNext items end_ with
  | some (_, false) => items
  | _ => items.insert end_ false

def update (state : ChunkState) (start end_ : Int) : Except String ChunkState :=
  if start < 0 then .error "invalid start offset of the range"
  else if end_ > state.fileSize then .error "invalid end offset of the range"
  else if start ≥ end_ then .error "start offset should be less than end offset"
  else .ok { state with items := markUpdated state.items start end_ }

def isCompleted (state : ChunkState) : Bool :=
  state.items.entries.length == 2 &&
    state.items.entries.head? == some (0, true) &&
    state.items.entries.getLast? == some (state.fileSize, false)

/-! ## The bytes that are marked -/

def Updated (state : ChunkState) (offset : Int) : Prop :=
  valueAt false state.items.entries offset = true

/-- The items alternate, the last one is not updated, and all updated bytes are
bytes of the file. -/
structure Valid (state : ChunkState) : Prop where
  reduced : Reduced false state.items.entries
  closed : lastValue false state.items.entries = false
  inside : ∀ offset, state.Updated offset → 0 ≤ offset ∧ offset < state.fileSize

theorem valid_new (fileSize : Int) : (new fileSize).Valid where
  reduced := trivial
  closed := rfl
  inside offset updated := by cases updated

section

variable {items : OrderedMap Bool} {start end_ : Int} {before between after : List (Int × Bool)}

theorem entries_deleteBetween (split : items.entries = before ++ between ++ after)
    (early : ∀ item ∈ before, item.1 < start)
    (within : ∀ item ∈ between, start ≤ item.1 ∧ item.1 ≤ end_)
    (late : ∀ item ∈ after, end_ < item.1) (ordered : start ≤ end_) {rounds : Nat}
    (enough : between.length ≤ rounds) :
    (deleteBetween start end_ rounds items).entries = before ++ after := by
  -- One round removes the first of the items that are within the range.
  induction rounds generalizing items between with
  | zero =>
      have none : between = [] := List.length_eq_zero_iff.mp (Nat.le_zero.mp enough)
      simpa [deleteBetween, none] using split
  | succ rounds induction =>
      have next : getItemOrNext items start = (between ++ after).head? := by
        apply OrderedMap.ceiling_of_entries (split.trans (List.append_assoc _ _ _)) early
        intro item member
        rcases List.mem_append.mp member with member | member
        · exact (within item member).1
        · have behind := late item member
          omega
      cases between with
      | cons first rest =>
          have bounds := within first List.mem_cons_self
          have found : items.entries = before ++ (first.1, first.2) :: (rest ++ after) := by
            simpa using split
          have erased : (items.erase first.1).entries = before ++ rest ++ after := by
            rw [OrderedMap.entries_erase found, List.append_assoc]
          simp only [deleteBetween, next, List.cons_append, List.head?_cons, bounds.2, if_true]
          apply induction erased
          · intro item member
            exact within item (List.mem_cons_of_mem first member)
          · simpa using enough
      | nil =>
          have kept : items.entries = before ++ after := by simpa using split
          cases after with
          | nil => simpa [deleteBetween, next] using kept
          | cons first rest =>
              have behind : ¬ first.1 ≤ end_ := by
                have less := late first List.mem_cons_self
                omega
              simpa [deleteBetween, next, behind] using kept

theorem lastValue_eq_getLast? (marks : List (Int × Bool)) :
    lastValue false marks = true ↔ ∃ offset, marks.getLast? = some (offset, true) := by
  rcases List.eq_nil_or_concat marks with none | ⟨front, mark, split⟩
  · simp [none, lastValue]
  · rcases mark with ⟨offset, isUpdated⟩
    simp [split, lastValue]

theorem lastValue_eq_head? (reduced : Reduced false (before ++ between ++ after))
    (closed : lastValue false (before ++ between ++ after) = false) :
    lastValue false (before ++ between) = true ↔ ∃ offset, after.head? = some (offset, false) := by
  rw [reduced_append] at reduced
  rw [lastValue_append] at closed
  cases after with
  | nil =>
      have none : lastValue false (before ++ between) = false := closed
      simp [none]
  | cons next rest =>
      rcases next with ⟨offset, isUpdated⟩
      have changes : isUpdated ≠ lastValue false (before ++ between) := reduced.2.1
      cases isUpdated with
      | true =>
          have before : lastValue false (before ++ between) = false := by simpa using changes.symm
          simp [before]
      | false =>
          have before : lastValue false (before ++ between) = true := by simpa using changes.symm
          simp [before]

theorem entries_markUpdated (split : items.entries = before ++ between ++ after)
    (early : ∀ item ∈ before, item.1 < start)
    (within : ∀ item ∈ between, start ≤ item.1 ∧ item.1 ≤ end_)
    (late : ∀ item ∈ after, end_ < item.1) (less : start < end_)
    (reduced : Reduced false items.entries) (closed : lastValue false items.entries = false) :
    (markUpdated items start end_).entries =
      before ++ change (lastValue false before) start true ++
        change true end_ (lastValue false (before ++ between)) ++ after := by
  rw [split] at reduced closed
  have enough : between.length ≤ items.entries.length := by
    rw [split]
    simp only [List.length_append]
    omega
  have deleted := entries_deleteBetween split early within late (Int.le_of_lt less) enough
  have lateStart : ∀ item ∈ after, start < item.1 := fun item member =>
    Int.lt_trans less (late item member)
  unfold markUpdated
  generalize deleteBetween start end_ items.entries.length items = deletedItems at deleted
  have previous : getItemOrPrev deletedItems start = before.getLast? :=
    OrderedMap.floor_of_entries deleted (fun item member => Int.le_of_lt (early item member))
      lateStart
  -- After the first insertion the range starts as an updated one.
  have opened : ∃ openedItems : OrderedMap Bool,
      openedItems.entries = before ++ change (lastValue false before) start true ++ after ∧
      (match getItemOrPrev deletedItems start with
        | some (_, true) => deletedItems
        | _ => deletedItems.insert start true) = openedItems := by
    refine ⟨_, ?_, rfl⟩
    rw [previous]
    by_cases isUpdated : lastValue false before = true
    · rcases (lastValue_eq_getLast? before).mp isUpdated with ⟨offset, last⟩
      simp [last, isUpdated, change, deleted]
    · have inserted := OrderedMap.entries_insert true deleted early lateStart
      have notLast := mt (lastValue_eq_getLast? before).mpr isUpdated
      have isFalse : lastValue false before = false := by simpa using isUpdated
      split
      next offset last => exact absurd ⟨offset, last⟩ notLast
      next => simpa [change, isFalse] using inserted
  rcases opened with ⟨openedItems, entries, isOpened⟩
  dsimp only
  rw [isOpened]
  have earlyEnd : ∀ item ∈ before ++ change (lastValue false before) start true,
      item.1 < end_ := by
    intro item member
    rcases List.mem_append.mp member with member | member
    · exact Int.lt_trans (early item member) less
    · exact mem_change member ▸ less
  have next : getItemOrNext openedItems end_ = after.head? :=
    OrderedMap.ceiling_of_entries entries earlyEnd fun item member =>
      Int.le_of_lt (late item member)
  rw [next]
  by_cases isUpdated : lastValue false (before ++ between) = true
  · rcases (lastValue_eq_head? reduced closed).mp isUpdated with ⟨offset, first⟩
    simp [first, isUpdated, change, entries]
  · have inserted := OrderedMap.entries_insert false entries earlyEnd late
    have notFirst := mt (lastValue_eq_head? reduced closed).mpr isUpdated
    have isFalse : lastValue false (before ++ between) = false := by simpa using isUpdated
    split
    next offset first => exact absurd ⟨offset, first⟩ notFirst
    next =>
      rw [inserted, isFalse]
      simp [change]

end

theorem updated_markUpdated {state : ChunkState} (valid : state.Valid) {start end_ : Int}
    (less : start < end_) (offset : Int) :
    valueAt false (markUpdated state.items start end_).entries offset = true ↔
      (start ≤ offset ∧ offset < end_) ∨ state.Updated offset := by
  rcases exists_split state.items.sorted start end_ with
    ⟨before, between, after, split, early, within, late⟩
  rw [entries_markUpdated split early within late less valid.reduced valid.closed,
    valueAt_assign (Int.le_of_lt less) early within late, ← split]
  split
  next inside => simp [inside]
  next outside => simp only [outside, false_or, Updated]

theorem update_eq_ok {state next : ChunkState} {start end_ : Int} :
    state.update start end_ = .ok next ↔
      0 ≤ start ∧ end_ ≤ state.fileSize ∧ start < end_ ∧
        next = { state with items := markUpdated state.items start end_ } := by
  rw [update]
  constructor
  · intro updates
    split at updates
    · cases updates
    · split at updates
      · cases updates
      · split at updates
        · cases updates
        · cases updates
          exact ⟨by omega, by omega, by omega, rfl⟩
  · rintro ⟨nonneg, fits, less, isNext⟩
    rw [if_neg (by omega), if_neg (by omega), if_neg (by omega), isNext]

theorem Valid.update {state next : ChunkState} (valid : state.Valid) {start end_ : Int}
    (updates : state.update start end_ = .ok next) : next.Valid := by
  rcases update_eq_ok.mp updates with ⟨nonneg, fits, less, isNext⟩
  rcases exists_split state.items.sorted start end_ with
    ⟨before, between, after, split, early, within, late⟩
  have entries := entries_markUpdated split early within late less valid.reduced valid.closed
  subst isNext
  have reduced := valid.reduced
  have closed := valid.closed
  rw [split] at reduced closed
  refine ⟨?_, ?_, ?_⟩
  · rw [entries]
    exact reduced_assign reduced
  · rw [entries]
    simpa using closed
  · intro offset updated
    rcases (updated_markUpdated valid less offset).mp updated with inside | old
    · dsimp only
      omega
    · exact valid.inside offset old

theorem valueAt_whole (fileSize offset : Int) :
    valueAt false [(0, true), (fileSize, false)] offset = true ↔ 0 ≤ offset ∧ offset < fileSize := by
  simp only [valueAt]
  by_cases negative : offset < 0
  · have notNonneg : ¬ 0 ≤ offset := by omega
    simp [negative, notNonneg]
  · have nonneg : 0 ≤ offset := by omega
    by_cases inside : offset < fileSize
    · simp [negative, nonneg, inside]
    · simp [negative, inside]

theorem isCompleted_iff {state : ChunkState} (valid : state.Valid) :
    state.isCompleted = true ↔
      0 < state.fileSize ∧ ∀ offset, 0 ≤ offset → offset < state.fileSize → state.Updated offset := by
  constructor
  · intro completed
    simp only [isCompleted, Bool.and_eq_true, beq_iff_eq] at completed
    rcases completed with ⟨⟨two, head⟩, last⟩
    rcases List.length_eq_two.mp two with ⟨first, second, isPair⟩
    rw [isPair] at head last
    have isFirst : first = (0, true) := by simpa using head
    have isSecond : second = (state.fileSize, false) := by simpa using last
    rw [isFirst, isSecond] at isPair
    have positive : 0 < state.fileSize := by
      have sorted := state.items.sorted
      rw [isPair] at sorted
      simpa using sorted
    refine ⟨positive, fun offset nonneg fits => ?_⟩
    rw [Updated]
    rw [isPair]
    exact (valueAt_whole _ offset).mpr ⟨nonneg, fits⟩
  · rintro ⟨positive, all⟩
    have whole : state.items.entries = [(0, true), (state.fileSize, false)] := by
      apply eq_of_valueAt_eq state.items.sorted _ valid.reduced
      · simp [Reduced]
      · intro offset
        rw [Bool.eq_iff_iff, valueAt_whole]
        exact ⟨valid.inside offset, fun inside => all offset inside.1 inside.2⟩
      · simpa using positive
    simp [isCompleted, whole]

end ChunkState

end Cuttlefish.UserArtifacts
