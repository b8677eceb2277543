import Cuttlefish.UserArtifacts.UpdateArtifact

/-! # Ranges of chunks

Which ranges the checks of `UpdateArtifact` let through, and what a sequence of
`Update` calls leaves in the items of the chunk state. -/

namespace Cuttlefish.UserArtifacts

/-! ## The range check -/

/-- The chunk lies within the file, in numbers that do not wrap. -/
def InFile (chunk : UserArtifactChunk) : Prop :=
  0 ≤ chunk.offsetBytes.toInt ∧ 0 ≤ chunk.sizeBytes.toInt ∧
    chunk.offsetBytes.toInt + chunk.sizeBytes.toInt ≤ chunk.fileSizeBytes.toInt

/-- The sum of the check is computed without wrapping, or is not reached. -/
def SumFits (chunk : UserArtifactChunk) : Prop :=
  chunk.offsetBytes.toInt < 0 ∨ chunk.sizeBytes.toInt < 0 ∨ chunk.fileSizeBytes.toInt < 0 ∨
    chunk.offsetBytes.toInt + chunk.sizeBytes.toInt < 9223372036854775808

theorem checkChunk_eq_none (chunk : UserArtifactChunk) :
    checkChunk chunk = none ↔
      0 ≤ chunk.offsetBytes.toInt ∧ 0 ≤ chunk.sizeBytes.toInt ∧ 0 ≤ chunk.fileSizeBytes.toInt ∧
        (chunk.offsetBytes.toInt + chunk.sizeBytes.toInt).bmod 18446744073709551616 ≤
          chunk.fileSizeBytes.toInt := by
  have sum : (chunk.offsetBytes + chunk.sizeBytes).toInt =
      (chunk.offsetBytes.toInt + chunk.sizeBytes.toInt).bmod 18446744073709551616 :=
    Int64.toInt_add _ _
  simp only [checkChunk, Int64.lt_iff_toInt_lt, gt_iff_lt, sum]
  have zero : (0 : Int64).toInt = 0 := rfl
  rw [zero]
  constructor
  · intro accepted
    split at accepted
    · cases accepted
    · split at accepted
      · cases accepted
      · split at accepted
        · cases accepted
        · split at accepted
          · cases accepted
          · exact ⟨by omega, by omega, by omega, by omega⟩
  · intro bounds
    rw [if_neg (by omega), if_neg (by omega), if_neg (by omega), if_neg (by omega)]

theorem bmod_of_sum {offset size : Int} (offsetFits : offset < 9223372036854775808)
    (sizeFits : size < 9223372036854775808) (nonneg : 0 ≤ offset ∧ 0 ≤ size) :
    (offset + size).bmod 18446744073709551616 =
      if offset + size < 9223372036854775808 then offset + size
      else offset + size - 18446744073709551616 := by
  rw [Int.bmod_def]
  split <;> split <;> omega

theorem inFile_of_checkChunk_iff (chunk : UserArtifactChunk) :
    (checkChunk chunk = none → InFile chunk) ↔ SumFits chunk := by
  have offsetFits := chunk.offsetBytes.toInt_lt
  have sizeFits := chunk.sizeBytes.toInt_lt
  have fileFits := chunk.fileSizeBytes.toInt_lt
  rw [checkChunk_eq_none, InFile, SumFits]
  constructor
  · intro exact
    by_contra wraps
    simp only [not_or, not_lt] at wraps
    rcases wraps with ⟨offset, size, file, large⟩
    have wrapped := bmod_of_sum offsetFits sizeFits ⟨offset, size⟩
    rw [if_neg (by omega)] at wrapped
    have inFile := exact ⟨offset, size, file, by omega⟩
    omega
  · intro fits accepted
    rcases accepted with ⟨offset, size, file, sum⟩
    rw [bmod_of_sum offsetFits sizeFits ⟨offset, size⟩] at sum
    split at sum
    · exact ⟨offset, size, sum⟩
    · omega

/-- One byte at the largest offset of a file of no bytes. -/
def lastOffsetChunk : UserArtifactChunk where
  name := "a"
  file := [0]
  offsetBytes := 9223372036854775807
  sizeBytes := 1
  fileSizeBytes := 0

theorem checkChunk_lastOffsetChunk :
    checkChunk lastOffsetChunk = none ∧ ¬ InFile lastOffsetChunk := by
  constructor
  · decide
  · rw [InFile]
    decide

/-! ## Sequences of `Update` calls -/

namespace ChunkState

open StepFunction

/-- Calls of `Update` one after the other, and the ranges of those that succeed. A
call that fails leaves the state as it is. -/
def updates (state : ChunkState) : List (Int × Int) → ChunkState × List (Int × Int)
  | [] => (state, [])
  | range :: rest =>
      match state.update range.1 range.2 with
      | .error _ => updates state rest
      | .ok next =>
          let final := updates next rest
          (final.1, range :: final.2)

/-- The half-open ranges between a start marker and the end marker that follows it,
for items that are nothing but such pairs. -/
def markedRanges : List (Int × Bool) → Option (List (Int × Int))
  | [] => some []
  | (start, true) :: (end_, false) :: rest =>
      match markedRanges rest with
      | none => none
      | some ranges => some ((start, end_) :: ranges)
  | _ => none

/-- The offset lies in one of the half-open ranges. -/
def InUnion (ranges : List (Int × Int)) (offset : Int) : Prop :=
  ∃ range ∈ ranges, range.1 ≤ offset ∧ offset < range.2

@[simp] theorem not_inUnion_nil (offset : Int) : ¬ InUnion [] offset := by
  rintro ⟨range, member, -⟩
  cases member

@[simp] theorem inUnion_cons (range : Int × Int) (rest : List (Int × Int)) (offset : Int) :
    InUnion (range :: rest) offset ↔
      (range.1 ≤ offset ∧ offset < range.2) ∨ InUnion rest offset := by
  simp only [InUnion, List.mem_cons, exists_eq_or_imp]

theorem markedRanges_of_reduced (items : List (Int × Bool)) (reduced : Reduced false items)
    (closed : lastValue false items = false) : ∃ ranges, markedRanges items = some ranges := by
  induction items using markedRanges.induct with
  | case1 => exact ⟨[], rfl⟩
  | case2 start end_ rest failed induction =>
      rcases induction reduced.2.2 closed with ⟨ranges, isRanges⟩
      rw [isRanges] at failed
      cases failed
  | case3 start end_ rest ranges isRanges induction =>
      exact ⟨(start, end_) :: ranges, by simp only [markedRanges, isRanges]⟩
  | case4 items notNil notPair =>
      exfalso
      cases items with
      | nil => exact notNil rfl
      | cons first rest =>
          rcases first with ⟨start, isUpdated⟩
          have opens : isUpdated = true := by simpa using reduced.1
          subst opens
          cases rest with
          | nil => cases closed
          | cons second rest =>
              rcases second with ⟨end_, endUpdated⟩
              have closes : endUpdated = false := by simpa using reduced.2.1
              exact notPair start end_ rest (by rw [closes])

theorem valueAt_iff_inUnion {items : List (Int × Bool)} (sorted : Sorted items)
    {ranges : List (Int × Int)} (marked : markedRanges items = some ranges) (offset : Int) :
    valueAt false items offset = true ↔ InUnion ranges offset := by
  induction items using markedRanges.induct generalizing ranges with
  | case1 =>
      cases marked
      simp [valueAt]
  | case2 start end_ rest failed induction =>
      simp only [markedRanges, failed, reduceCtorEq] at marked
  | case3 start end_ rest tail isTail induction =>
      simp only [markedRanges, isTail, Option.some.injEq] at marked
      subst marked
      rcases List.pairwise_cons.mp sorted with ⟨fromStart, sortedEnd⟩
      rcases List.pairwise_cons.mp sortedEnd with ⟨fromEnd, sortedRest⟩
      have ordered : start < end_ := fromStart (end_, false) List.mem_cons_self
      rw [inUnion_cons, ← induction sortedRest isTail]
      simp only [valueAt]
      by_cases early : offset < start
      · -- All markers lie behind the offset.
        have behind : ∀ mark ∈ rest, offset < mark.1 := by
          intro mark member
          have less := fromStart mark (List.mem_cons_of_mem _ member)
          dsimp only at less
          omega
        have notStarted : ¬ start ≤ offset := by omega
        simp [early, notStarted, valueAt_of_lt behind]
      · have started : start ≤ offset := by omega
        by_cases inside : offset < end_
        · simp [early, started, inside]
        · simp [early, inside]
  | case4 items notNil notPair =>
      simp only [markedRanges] at marked
      cases marked

theorem updates_spec {state : ChunkState} (valid : state.Valid) (ranges : List (Int × Int)) :
    (state.updates ranges).1.Valid ∧
      (state.updates ranges).1.fileSize = state.fileSize ∧
      ∀ offset, (state.updates ranges).1.Updated offset ↔
        InUnion (state.updates ranges).2 offset ∨ state.Updated offset := by
  induction ranges generalizing state with
  | nil => simp [updates, valid]
  | cons range rest induction =>
      rw [updates]
      split
      next message fails => exact induction valid
      next next succeeds =>
        rcases induction (valid.update succeeds) with ⟨finalValid, finalSize, finalUpdated⟩
        rcases update_eq_ok.mp succeeds with ⟨-, -, less, isNext⟩
        refine ⟨finalValid, ?_, ?_⟩
        · rw [finalSize, isNext]
        · intro offset
          have marks : next.Updated offset ↔
              (range.1 ≤ offset ∧ offset < range.2) ∨ state.Updated offset := by
            rw [isNext]
            exact updated_markUpdated valid less offset
          rw [finalUpdated, marks, inUnion_cons, or_left_comm, or_assoc]

/-- The items after any calls of `Update` on a new state are start and end markers in
turn, in the order of their offsets, around the bytes of the calls that succeeded, and
the state is complete when these are the bytes of a file that has some. -/
theorem updates_new_exact (fileSize : Int) (ranges : List (Int × Int)) :
    ((new fileSize).updates ranges).1.items.entries.Pairwise
        (fun first second => first.1 < second.1) ∧
      (∃ marked, markedRanges ((new fileSize).updates ranges).1.items.entries = some marked ∧
        ∀ offset, InUnion marked offset ↔
          InUnion ((new fileSize).updates ranges).2 offset) ∧
      (((new fileSize).updates ranges).1.isCompleted = true ↔
        0 < fileSize ∧ ∀ offset, InUnion ((new fileSize).updates ranges).2 offset ↔
          0 ≤ offset ∧ offset < fileSize) := by
  rcases updates_spec (valid_new fileSize) ranges with ⟨valid, size, updated⟩
  have fresh : ∀ offset, ¬ (new fileSize).Updated offset := by
    intro offset marked
    cases marked
  generalize (new fileSize).updates ranges = final at valid size updated
  have onlyUnion : ∀ offset, final.1.Updated offset ↔ InUnion final.2 offset := by
    intro offset
    rw [updated offset, or_iff_left (fresh offset)]
  refine ⟨final.1.items.sorted, ?_, ?_⟩
  · rcases markedRanges_of_reduced _ valid.reduced valid.closed with ⟨marked, isMarked⟩
    refine ⟨marked, isMarked, ?_⟩
    intro offset
    rw [← onlyUnion, Updated, valueAt_iff_inUnion final.1.items.sorted isMarked]
  · have sameSize : final.1.fileSize = fileSize := size
    rw [isCompleted_iff valid, sameSize]
    apply and_congr_right
    intro positive
    constructor
    · intro all offset
      rw [← onlyUnion]
      constructor
      · intro isUpdated
        exact sameSize ▸ valid.inside offset isUpdated
      · intro inside
        exact all offset inside.1 inside.2
    · intro exact offset nonneg less
      exact (onlyUnion offset).mpr ((exact offset).mpr ⟨nonneg, less⟩)

/-- Two calls that touch, one that is refused and one within the others. -/
example : ((new 10).updates [(4, 10), (8, 11), (0, 4), (2, 3)]).1.items.entries =
    [(0, true), (10, false)] := by decide

end ChunkState

end Cuttlefish.UserArtifacts
