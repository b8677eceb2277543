import Cuttlefish.Io.Lz4Legacy

/-! # Reads behind a block that is not decompressed

`Lz4LegacyReader` resizes its buffer before it decompresses a block. When the block is malformed or
has no bytes, the buffer stays as it is, and what the next reads return was never decompressed. -/

namespace Cuttlefish.Io

variable {Source : Type}

/-- `LZ4_decompress_safe` writes inside of the destination. -/
def Lz4.WritesInside (lz4 : Lz4) : Prop :=
  ∀ src dstCapacity, (lz4.decompressSafe src dstCapacity).2.length = dstCapacity

def Lz4.decompress (lz4 : Lz4) (compressed : Bytes) : Option Bytes :=
  let (lz4Length, decompressed) := lz4.decompressSafe compressed lz4LegacyFrameBlockSize
  if lz4Length < 0 then none else some (decompressed.take lz4Length.toNat)

def Lz4.Spoils (lz4 : Lz4) (compressed : Bytes) : Prop :=
  (lz4.decompressSafe compressed lz4LegacyFrameBlockSize).1 ≤ 0

def Reader.nextBlock (reader : Reader Source) (source : Source) : Option Bytes :=
  match reader.read source 1 with
  | (.ok (first :: _), source) =>
      match reader.readExact 3 source with
      | (.ok others, source) =>
          let length := LittleEndian.decode (first :: others)
          if length = 0 then none else (reader.readExact length source).1.toOption
      | _ => none
  | _ => none

namespace Lz4LegacyReader

variable (lz4 : Lz4) (reader : Reader Source)

/-! ## Runs -/

/-- The reader after reads of these sizes, whatever each of them returned. -/
def after : (sizes : List Nat) → Lz4LegacyReader Source → Lz4LegacyReader Source
  | [], state => state
  | size :: sizes, state => after sizes (read lz4 reader state size).2

/-- All bytes that reads of these sizes return. A read that fails returns none. -/
def returned : (sizes : List Nat) → Lz4LegacyReader Source → Bytes
  | [], _ => []
  | size :: sizes, state =>
      (read lz4 reader state size).1.toOption.getD [] ++
        returned sizes (read lz4 reader state size).2

def takesBlock (state : Lz4LegacyReader Source) : Option Bytes :=
  if state.decompressed = [] then reader.nextBlock state.source else none

/-- What the blocks are decompressed to, in order, that reads of these sizes take from the
source. -/
def decompressedBlocks : (sizes : List Nat) → Lz4LegacyReader Source → List Bytes
  | [], _ => []
  | size :: sizes, state =>
      ((takesBlock reader state).bind lz4.decompress).toList ++
        decompressedBlocks sizes (read lz4 reader state size).2

def MeetsSpoiledBlock (state : Lz4LegacyReader Source) : Prop :=
  ∃ block, takesBlock reader state = some block ∧ lz4.Spoils block

/-- No read behind one that meets a spoiled block asks for a byte. -/
def StopsAtSpoiledBlock (sizes : List Nat) (state : Lz4LegacyReader Source) : Prop :=
  ∀ before size later, sizes = before ++ size :: later →
    MeetsSpoiledBlock lz4 reader (after lz4 reader before state) → ∀ count ∈ later, count = 0

variable {lz4 reader}

/-! ## One read -/

theorem nextBlock_eq_some {source : Source} {compressed : Bytes}
    (isBlock : reader.nextBlock source = some compressed) :
    ∃ first rest others, ∃ behindFirst behindLength behindBlock : Source,
      reader.read source 1 = (.ok (first :: rest), behindFirst) ∧
        reader.readExact 3 behindFirst = (.ok others, behindLength) ∧
        LittleEndian.decode (first :: others) ≠ 0 ∧
        reader.readExact (LittleEndian.decode (first :: others)) behindLength =
          (.ok compressed, behindBlock) := by
  rw [Reader.nextBlock] at isBlock
  rcases firstRead : reader.read source 1 with ⟨failure | _ | ⟨first, rest⟩, behindFirst⟩
  · simp only [firstRead, reduceCtorEq] at isBlock
  · simp only [firstRead, reduceCtorEq] at isBlock
  rcases lengthRead : reader.readExact 3 behindFirst with ⟨failure | others, behindLength⟩
  · simp only [firstRead, lengthRead, reduceCtorEq] at isBlock
  simp only [firstRead, lengthRead] at isBlock
  by_cases ended : LittleEndian.decode (first :: others) = 0
  · rw [if_pos ended] at isBlock
    cases isBlock
  rw [if_neg ended] at isBlock
  rcases blockRead : reader.readExact (LittleEndian.decode (first :: others)) behindLength with
    ⟨failure | bytes, behindBlock⟩
  · rw [blockRead] at isBlock
    cases isBlock
  rw [blockRead] at isBlock
  refine ⟨first, rest, others, behindFirst, behindLength, behindBlock, rfl, lengthRead, ended, ?_⟩
  rw [blockRead, Option.some.inj isBlock]

theorem refill_of_some {state : Lz4LegacyReader Source} {compressed : Bytes}
    (isBlock : reader.nextBlock state.source = some compressed) {lz4Length : Int}
    {decompressed : Bytes}
    (result : lz4.decompressSafe compressed lz4LegacyFrameBlockSize = (lz4Length, decompressed)) :
    ∃ source, refill lz4 reader state =
      if lz4Length < 0 then (.error (.err "lz4_length"), ⟨source, decompressed⟩)
      else if lz4Length = 0 then (.ok false, ⟨source, decompressed⟩)
      else (.ok true, ⟨source, decompressed.take lz4Length.toNat⟩) := by
  rcases nextBlock_eq_some isBlock with
    ⟨first, rest, others, behindFirst, behindLength, source, readFirst, readLength, some, readBlock⟩
  refine ⟨source, ?_⟩
  rw [refill, readFirst]
  simp only [readLength, if_neg some, readBlock, result]

theorem refill_of_none {state : Lz4LegacyReader Source}
    (noBlock : reader.nextBlock state.source = none) :
    ∃ outcome source, refill lz4 reader state = (outcome, { state with source }) ∧
      outcome.toOption.getD false = false := by
  rw [Reader.nextBlock] at noBlock
  rcases firstRead : reader.read state.source 1 with ⟨failure | _ | ⟨first, rest⟩, behindFirst⟩
  · exact ⟨.error failure, behindFirst, by rw [refill, firstRead], rfl⟩
  · exact ⟨.ok false, behindFirst, by rw [refill, firstRead], rfl⟩
  rcases lengthRead : reader.readExact 3 behindFirst with ⟨failure | others, behindLength⟩
  · refine ⟨.error failure, behindLength, ?_, rfl⟩
    rw [refill, firstRead]
    simp only [lengthRead]
  simp only [firstRead, lengthRead] at noBlock
  by_cases ended : LittleEndian.decode (first :: others) = 0
  · refine ⟨.ok false, behindLength, ?_, rfl⟩
    rw [refill, firstRead]
    simp only [lengthRead, if_pos ended]
  rw [if_neg ended] at noBlock
  rcases blockRead : reader.readExact (LittleEndian.decode (first :: others)) behindLength with
    ⟨failure | bytes, behindBlock⟩
  · refine ⟨.error failure, behindBlock, ?_, rfl⟩
    rw [refill, firstRead]
    simp only [lengthRead, if_neg ended, blockRead]
  · rw [blockRead] at noBlock
    cases noBlock

/-- What a read can do: answer from its buffer, find no block, spoil its buffer, or load a block
and answer from that. -/
inductive Step (lz4 : Lz4) (reader : Reader Source) (state : Lz4LegacyReader Source) (size : Nat) :
    Prop
  | buffered (notEmpty : state.decompressed ≠ []) (takes : takesBlock reader state = none)
      (answers : read lz4 reader state size = state.take size)
  | ended (isEmpty : state.decompressed = []) (takes : takesBlock reader state = none)
      (nothing : (read lz4 reader state size).1.toOption.getD [] = [])
      (stays : (read lz4 reader state size).2.decompressed = [])
  | spoiled (isEmpty : state.decompressed = []) (meets : MeetsSpoiledBlock lz4 reader state)
      (noBytes : ((takesBlock reader state).bind lz4.decompress).toList.flatten = [])
      (nothing : (read lz4 reader state size).1.toOption.getD [] = [])
      (stale : (read lz4 reader state size).2.decompressed ≠ [])
  | loaded (isEmpty : state.decompressed = []) (sound : ¬ MeetsSpoiledBlock lz4 reader state)
      (source : Source) (block : Bytes)
      (isBlock : (takesBlock reader state).bind lz4.decompress = some block)
      (answers : read lz4 reader state size = take ⟨source, block⟩ size)

theorem step_of_noBlock {state : Lz4LegacyReader Source} (isEmpty : state.decompressed = [])
    (noBlock : reader.nextBlock state.source = none) (size : Nat) :
    Step lz4 reader state size := by
  rcases @refill_of_none _ lz4 _ _ noBlock with ⟨outcome, source, refilled, notTrue⟩
  have takes : takesBlock reader state = none := (if_pos isEmpty).trans noBlock
  apply Step.ended isEmpty takes
  all_goals rw [read, if_pos isEmpty, refilled]
  all_goals rcases outcome with failure | found
  · rfl
  · cases found with
    | false => rfl
    | true => cases notTrue
  · exact isEmpty
  · cases found with
    | false => exact isEmpty
    | true => cases notTrue

theorem step_of_spoils {state : Lz4LegacyReader Source} (isEmpty : state.decompressed = [])
    {compressed : Bytes} (isNext : reader.nextBlock state.source = some compressed)
    {lz4Length : Int} {decompressed : Bytes}
    (result : lz4.decompressSafe compressed lz4LegacyFrameBlockSize = (lz4Length, decompressed))
    (notEmpty : decompressed ≠ []) (spoils : lz4Length ≤ 0) (size : Nat) :
    Step lz4 reader state size := by
  have takes : takesBlock reader state = some compressed := (if_pos isEmpty).trans isNext
  have meets : MeetsSpoiledBlock lz4 reader state :=
    ⟨compressed, takes, by rw [Lz4.Spoils, result]; exact spoils⟩
  rcases refill_of_some isNext result with ⟨source, refilled⟩
  have answers : read lz4 reader state size =
      if lz4Length < 0 then (.error (.err "lz4_length"), ⟨source, decompressed⟩)
      else (.ok [], ⟨source, decompressed⟩) := by
    rw [read, if_pos isEmpty, refilled]
    by_cases negative : lz4Length < 0
    · rw [if_pos negative, if_pos negative]
    · rw [if_neg negative, if_neg negative, if_pos (by omega)]
  have blocks : ((takesBlock reader state).bind lz4.decompress).toList.flatten = [] := by
    rw [takes, Option.bind_some, Lz4.decompress, result]
    dsimp only
    split
    · rfl
    · have zero : lz4Length = 0 := by omega
      rw [zero]
      rfl
  apply Step.spoiled isEmpty meets blocks
  · rw [answers]
    split
    · rfl
    · rfl
  · rw [answers]
    split
    · exact notEmpty
    · exact notEmpty

theorem step_of_loads {state : Lz4LegacyReader Source} (isEmpty : state.decompressed = [])
    {compressed : Bytes} (isNext : reader.nextBlock state.source = some compressed)
    {lz4Length : Int} {decompressed : Bytes}
    (result : lz4.decompressSafe compressed lz4LegacyFrameBlockSize = (lz4Length, decompressed))
    (loads : 0 < lz4Length) (size : Nat) : Step lz4 reader state size := by
  have takes : takesBlock reader state = some compressed := (if_pos isEmpty).trans isNext
  rcases refill_of_some isNext result with ⟨source, refilled⟩
  have sound : ¬ MeetsSpoiledBlock lz4 reader state := by
    intro meets
    rcases meets with ⟨other, isOther, spoils⟩
    rw [takes] at isOther
    rw [← Option.some.inj isOther, Lz4.Spoils, result] at spoils
    omega
  apply Step.loaded isEmpty sound source (decompressed.take lz4Length.toNat)
  · rw [takes, Option.bind_some, Lz4.decompress, result]
    exact if_neg (by omega)
  · rw [read, if_pos isEmpty, refilled, if_neg (by omega), if_neg (by omega)]

theorem read_step (writesInside : lz4.WritesInside) (state : Lz4LegacyReader Source) (size : Nat) :
    Step lz4 reader state size := by
  by_cases isEmpty : state.decompressed = []
  case neg =>
    apply Step.buffered isEmpty
    · rw [takesBlock, if_neg isEmpty]
    · rw [read, if_neg isEmpty]
  cases isNext : reader.nextBlock state.source with
  | none => exact step_of_noBlock isEmpty isNext size
  | some compressed =>
      have length := writesInside compressed lz4LegacyFrameBlockSize
      rcases result : lz4.decompressSafe compressed lz4LegacyFrameBlockSize with
        ⟨lz4Length, decompressed⟩
      rw [result] at length
      have notEmpty : decompressed ≠ [] := by
        intro none
        rw [none] at length
        change 0 = lz4LegacyFrameBlockSize at length
        exact absurd length (by decide)
      by_cases spoils : lz4Length ≤ 0
      · exact step_of_spoils isEmpty isNext result notEmpty spoils size
      · exact step_of_loads isEmpty isNext result (Int.not_le.mp spoils) size

/-! ## Runs of reads -/

theorem takesBlock_of_buffered {state : Lz4LegacyReader Source}
    (notEmpty : state.decompressed ≠ []) : takesBlock reader state = none := if_neg notEmpty

theorem take_append_isPrefix_iff {size : Nat} {buffer behind other : Bytes} :
    buffer.take size ++ behind <+: buffer ++ other ↔ behind <+: buffer.drop size ++ other := by
  have parts : buffer ++ other = buffer.take size ++ (buffer.drop size ++ other) := by
    rw [← List.append_assoc, List.take_append_drop]
  rw [parts, List.prefix_append_right_inj]

theorem stopsAtSpoiledBlock_cons {size : Nat} {sizes : List Nat} {state : Lz4LegacyReader Source} :
    StopsAtSpoiledBlock lz4 reader (size :: sizes) state ↔
      (MeetsSpoiledBlock lz4 reader state → ∀ count ∈ sizes, count = 0) ∧
        StopsAtSpoiledBlock lz4 reader sizes (read lz4 reader state size).2 := by
  constructor
  · intro stops
    constructor
    · exact stops [] size sizes rfl
    · intro before other later split
      exact stops (size :: before) other later (by rw [split]; rfl)
  · intro stops before other later split
    cases before with
    | nil =>
        rcases List.cons.inj split with ⟨-, isLater⟩
        rw [← isLater]
        exact stops.1
    | cons first before =>
        rcases List.cons.inj split with ⟨isFirst, isRest⟩
        rw [← isFirst]
        exact stops.2 before other later isRest

theorem run_of_zeros {sizes : List Nat} (zeros : ∀ count ∈ sizes, count = 0)
    {state : Lz4LegacyReader Source} (notEmpty : state.decompressed ≠ []) :
    returned lz4 reader sizes state = [] ∧ decompressedBlocks lz4 reader sizes state = [] := by
  induction sizes with
  | nil => exact ⟨rfl, rfl⟩
  | cons size sizes induction =>
      rcases List.forall_mem_cons.mp zeros with ⟨zero, later⟩
      have answers : read lz4 reader state size = (.ok [], state) := by
        rw [read, if_neg notEmpty, zero]
        rfl
      rcases induction later with ⟨noBytes, noBlocks⟩
      constructor
      · rw [returned, answers, noBytes]
        rfl
      · rw [decompressedBlocks, answers, takesBlock_of_buffered notEmpty, noBlocks]
        rfl

theorem spoiled_step (writesInside : lz4.WritesInside) {state : Lz4LegacyReader Source}
    (meets : MeetsSpoiledBlock lz4 reader state) (size : Nat) (sizes : List Nat) :
    state.decompressed = [] ∧ (read lz4 reader state size).2.decompressed ≠ [] ∧
      returned lz4 reader (size :: sizes) state =
        returned lz4 reader sizes (read lz4 reader state size).2 ∧
      (decompressedBlocks lz4 reader (size :: sizes) state).flatten =
        (decompressedBlocks lz4 reader sizes (read lz4 reader state size).2).flatten := by
  rw [returned, decompressedBlocks, List.flatten_append]
  have taken : takesBlock reader state ≠ none := by
    rcases meets with ⟨block, isBlock, -⟩
    rw [isBlock]
    exact Option.some_ne_none block
  cases read_step writesInside state size with
  | buffered notEmpty takes answers => exact absurd takes taken
  | ended isEmpty takes nothing stays => exact absurd takes taken
  | spoiled isEmpty meets noBytes nothing stale =>
      refine ⟨isEmpty, stale, ?_, ?_⟩
      · rw [nothing, List.nil_append]
      · rw [noBytes, List.nil_append]
  | loaded isEmpty sound source block isBlock answers => exact absurd meets sound

theorem sound_step_iff (writesInside : lz4.WritesInside) {state : Lz4LegacyReader Source}
    (sound : ¬ MeetsSpoiledBlock lz4 reader state) (size : Nat) (sizes : List Nat) :
    returned lz4 reader (size :: sizes) state <+:
        state.decompressed ++ (decompressedBlocks lz4 reader (size :: sizes) state).flatten ↔
      returned lz4 reader sizes (read lz4 reader state size).2 <+:
        (read lz4 reader state size).2.decompressed ++
          (decompressedBlocks lz4 reader sizes (read lz4 reader state size).2).flatten := by
  rw [returned, decompressedBlocks, List.flatten_append]
  cases read_step writesInside state size with
  | buffered notEmpty takes answers =>
      rw [answers, takes]
      exact take_append_isPrefix_iff
  | ended isEmpty takes nothing stays =>
      rw [nothing, takes, isEmpty, stays]
      exact Iff.rfl
  | spoiled isEmpty meets noBytes nothing stale => exact absurd meets sound
  | loaded isEmpty sound source block isBlock answers =>
      rw [answers, isBlock, isEmpty]
      change block.take size ++ _ <+: block ++ [] ++ _ ↔ _
      rw [List.append_nil]
      exact take_append_isPrefix_iff

theorem returned_prefix_of_stops (writesInside : lz4.WritesInside) {sizes : List Nat}
    {state : Lz4LegacyReader Source} (stops : StopsAtSpoiledBlock lz4 reader sizes state) :
    returned lz4 reader sizes state <+:
      state.decompressed ++ (decompressedBlocks lz4 reader sizes state).flatten := by
  induction sizes generalizing state with
  | nil => exact List.nil_prefix
  | cons size sizes induction =>
      rcases stopsAtSpoiledBlock_cons.mp stops with ⟨atFirst, later⟩
      by_cases meets : MeetsSpoiledBlock lz4 reader state
      · rcases spoiled_step writesInside meets size sizes with ⟨-, stale, sameBytes, -⟩
        rw [sameBytes, (run_of_zeros (atFirst meets) stale).1]
        exact List.nil_prefix
      · exact (sound_step_iff writesInside meets size sizes).mpr (induction later)

theorem zeros_of_returned_nil {sizes : List Nat} {state : Lz4LegacyReader Source}
    (notEmpty : state.decompressed ≠ [])
    (only : ∀ soFar, soFar <+: sizes → returned lz4 reader soFar state <+:
      (decompressedBlocks lz4 reader soFar state).flatten) :
    ∀ count ∈ sizes, count = 0 := by
  induction sizes with
  | nil =>
      intro count member
      cases member
  | cons size sizes induction =>
      have answers : read lz4 reader state size = state.take size := by
        rw [read, if_neg notEmpty]
      have first := only [size] ⟨sizes, rfl⟩
      rw [returned, decompressedBlocks, answers, takesBlock_of_buffered notEmpty] at first
      have noBytes := List.append_eq_nil_iff.mp (List.prefix_nil.mp first)
      have zero : size = 0 :=
        (List.take_eq_nil_iff.mp noBytes.1).resolve_right notEmpty
      have stays : (read lz4 reader state size).2 = state := by
        rw [answers, zero]
        rfl
      refine List.forall_mem_cons.mpr ⟨zero, induction ?_⟩
      intro soFar isPrefix
      have longer := only (size :: soFar) ((List.prefix_cons_inj size).mpr isPrefix)
      rw [returned, decompressedBlocks, stays, answers, zero, takesBlock_of_buffered notEmpty]
        at longer
      exact longer

theorem stops_of_always_returned (writesInside : lz4.WritesInside) {sizes : List Nat}
    {state : Lz4LegacyReader Source}
    (always : ∀ soFar, soFar <+: sizes → returned lz4 reader soFar state <+:
      state.decompressed ++ (decompressedBlocks lz4 reader soFar state).flatten) :
    StopsAtSpoiledBlock lz4 reader sizes state := by
  induction sizes generalizing state with
  | nil =>
      intro before size later split
      simp at split
  | cons size sizes induction =>
      have tails : ∀ soFar, soFar <+: sizes →
          returned lz4 reader (size :: soFar) state <+:
            state.decompressed ++ (decompressedBlocks lz4 reader (size :: soFar) state).flatten :=
        fun soFar isPrefix => always (size :: soFar) ((List.prefix_cons_inj size).mpr isPrefix)
      apply stopsAtSpoiledBlock_cons.mpr
      by_cases meets : MeetsSpoiledBlock lz4 reader state
      · have stale := (spoiled_step writesInside meets size sizes).2.1
        have zeros : ∀ count ∈ sizes, count = 0 := by
          apply zeros_of_returned_nil stale
          intro soFar isPrefix
          have whole := tails soFar isPrefix
          rcases spoiled_step writesInside meets size soFar with
            ⟨isEmpty, -, sameBytes, sameBlocks⟩
          rw [isEmpty, sameBytes, sameBlocks] at whole
          exact whole
        refine ⟨fun _ => zeros, induction ?_⟩
        intro soFar isPrefix
        have none := fun count member => zeros count (isPrefix.subset member)
        rw [(run_of_zeros none stale).1]
        exact List.nil_prefix
      · refine ⟨fun isMet => absurd isMet meets, induction ?_⟩
        intro soFar isPrefix
        exact (sound_step_iff writesInside meets size soFar).mp (tails soFar isPrefix)

/-- At every point of a run of reads, what was returned is the first part of what was
decompressed, if and only if no read behind a spoiled block asks for a byte. -/
theorem returned_prefix_iff (writesInside : lz4.WritesInside) {source : Source}
    {start : Lz4LegacyReader Source} (created : create reader source = .ok start)
    (sizes : List Nat) :
    (∀ soFar, soFar <+: sizes → returned lz4 reader soFar start <+:
        (decompressedBlocks lz4 reader soFar start).flatten) ↔
      StopsAtSpoiledBlock lz4 reader sizes start := by
  have isEmpty : start.decompressed = [] := by
    rw [create] at created
    split at created
    · cases created
    · split at created
      · cases created
        rfl
      · cases created
  have run : ∀ {sizes}, StopsAtSpoiledBlock lz4 reader sizes start →
      returned lz4 reader sizes start <+: (decompressedBlocks lz4 reader sizes start).flatten := by
    intro sizes stops
    have whole := returned_prefix_of_stops writesInside stops
    rw [isEmpty] at whole
    exact whole
  constructor
  · intro always
    apply stops_of_always_returned writesInside
    rw [isEmpty]
    exact always
  · intro stops soFar isPrefix
    apply run
    intro before size later split meets count member
    rcases isPrefix with ⟨behind, isSizes⟩
    apply stops before size (later ++ behind) _ meets count (List.mem_append_left _ member)
    rw [← isSizes, split, List.append_assoc]
    rfl

/-! ## A malformed block -/

theorem literals_writesInside : Lz4.literals.WritesInside := by
  intro src dstCapacity
  rw [Lz4.literals]
  dsimp only
  split
  · exact Bytes.length_zeros dstCapacity
  · split
    · next fits =>
        rw [List.length_append, Bytes.length_zeros, fits.1]
        omega
    · exact Bytes.length_zeros dstCapacity

theorem readExact_inParts (limit : Nat) (bytes rest : Bytes) :
    (Reader.inParts limit).readExact bytes.length (bytes ++ rest) = (.ok bytes, rest) := by
  have left : (Streams.inParts limit).Left (bytes ++ rest) (bytes ++ rest) := rfl
  rcases (Streams.inParts limit).readExact left with
    ⟨next, answers, isRest⟩
  change next = rest at isRest
  rw [answers, isRest]

/-- A frame of one block, a token of one literal without the literal. -/
def malformedFrame : Bytes := LittleEndian.encode 4 lz4LegacyFrameMagic ++ [1, 0, 0, 0, 16]

def malformedStart : Lz4LegacyReader Bytes := ⟨[1, 0, 0, 0, 16], []⟩

theorem create_malformedFrame :
    create (Reader.inParts 0) malformedFrame = .ok malformedStart := by
  have magic := readExact_inParts 0 (LittleEndian.encode 4 lz4LegacyFrameMagic) [1, 0, 0, 0, 16]
  rw [LittleEndian.length_encode] at magic
  rw [create, malformedFrame, magic]
  exact if_pos (LittleEndian.decode_encode (by decide))

theorem nextBlock_malformedStart :
    (Reader.inParts 0).nextBlock malformedStart.source = some [16] := by
  have first : (Reader.inParts 0).read malformedStart.source 1 = (.ok [1], [0, 0, 0, 16]) := rfl
  have length : (Reader.inParts 0).readExact 3 [0, 0, 0, 16] = (.ok [0, 0, 0], [16]) :=
    readExact_inParts 0 [0, 0, 0] [16]
  have block : (Reader.inParts 0).readExact 1 [16] = (.ok [16], []) :=
    readExact_inParts 0 [16] []
  have isOne : LittleEndian.decode [1, 0, 0, 0] = 1 := by decide
  rw [Reader.nextBlock, first]
  simp only [length, isOne, if_neg Nat.one_ne_zero, block]
  rfl

/-- The second read returns a byte of the buffer that the malformed block has left there. -/
theorem malformedFrame_returns_byte :
    ∃ start, create (Reader.inParts 0) malformedFrame = .ok start ∧
      ¬ returned Lz4.literals (Reader.inParts 0) [1, 1] start <+:
        (decompressedBlocks Lz4.literals (Reader.inParts 0) [1, 1] start).flatten := by
  refine ⟨malformedStart, create_malformedFrame, ?_⟩
  have fails : Lz4.literals.decompressSafe [16] lz4LegacyFrameBlockSize =
      (-1, Bytes.zeros lz4LegacyFrameBlockSize) := rfl
  rcases refill_of_some nextBlock_malformedStart fails with ⟨source, refilled⟩
  rw [if_pos (by decide)] at refilled
  have first : read Lz4.literals (Reader.inParts 0) malformedStart 1 =
      (.error (.err "lz4_length"), ⟨source, Bytes.zeros lz4LegacyFrameBlockSize⟩) := by
    have isEmpty : malformedStart.decompressed = [] := rfl
    rw [read, if_pos isEmpty, refilled]
  have notEmpty : Bytes.zeros lz4LegacyFrameBlockSize ≠ [] := by
    apply List.ne_nil_of_length_pos
    rw [Bytes.length_zeros]
    decide
  have takes : takesBlock (Reader.inParts 0) malformedStart = some [16] := nextBlock_malformedStart
  have buffered : takesBlock (Reader.inParts 0)
      ⟨source, Bytes.zeros lz4LegacyFrameBlockSize⟩ = none := takesBlock_of_buffered notEmpty
  have second : read Lz4.literals (Reader.inParts 0)
      ⟨source, Bytes.zeros lz4LegacyFrameBlockSize⟩ 1 =
        take ⟨source, Bytes.zeros lz4LegacyFrameBlockSize⟩ 1 := if_neg notEmpty
  simp only [decompressedBlocks, returned, first, second, takes, buffered, Option.bind_some,
    Lz4.decompress, fails]
  intro isPrefix
  exact List.cons_ne_nil _ _ (List.prefix_nil.mp isPrefix)

theorem returned_prefix_iff_malformedFrame :
    (∀ soFar, soFar <+: [1] → returned Lz4.literals (Reader.inParts 0) soFar malformedStart <+:
        (decompressedBlocks Lz4.literals (Reader.inParts 0) soFar malformedStart).flatten) ↔
      StopsAtSpoiledBlock Lz4.literals (Reader.inParts 0) [1] malformedStart :=
  returned_prefix_iff literals_writesInside create_malformedFrame [1]

end Lz4LegacyReader

end Cuttlefish.Io
