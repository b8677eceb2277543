import Cuttlefish.Foundation.LittleEndian
import Cuttlefish.Io.Streams

/-! # LZ4 legacy frames

`Lz4LegacyWriter` and `Lz4LegacyReader` of `io/lz4_legacy.cc`. The functions of `lz4.h` that
they call are a parameter. -/

namespace Cuttlefish.Io

variable {Source Sink : Type}

def lz4LegacyFrameBlockSize : Nat := 8388608

def lz4LegacyFrameMagic : Nat := 0x184C2102

/-- A compressed block without bytes stands for a compression that failed. Decompression returns
a size, which is negative when it fails, and leaves something in the destination. -/
structure Lz4 where
  compressBound : (inputSize : Nat) → Nat
  compressDefault : (src : Bytes) → (dstCapacity : Nat) → Bytes
  decompressSafe : (src : Bytes) → (dstCapacity : Nat) → Int × Bytes

namespace Lz4

variable (lz4 : Lz4)

def compress (block : Bytes) : Bytes :=
  lz4.compressDefault block (lz4.compressBound block.length)

structure IsBlock (block : Bytes) : Prop where
  nonempty : block ≠ []
  length_le : block.length ≤ lz4LegacyFrameBlockSize

/-- The functions compress every block, to a size that is an `int`, and decompress it again. -/
structure RoundTrips : Prop where
  compresses : ∀ {block}, IsBlock block → lz4.compress block ≠ []
  length_lt : ∀ {block}, IsBlock block → (lz4.compress block).length < 2147483648
  decompresses : ∀ {block}, IsBlock block → ∃ rest,
    lz4.decompressSafe (lz4.compress block) lz4LegacyFrameBlockSize =
      ((block.length : Int), block ++ rest)

end Lz4

/-! ## Writing -/

structure Lz4LegacyWriter (Sink : Type) where
  sink : Sink
  footerWritten : Bool

namespace Lz4LegacyWriter

/-- `Lz4LegacyWriter`. -/
def create (writer : Writer Sink) (sink : Sink) : Result (Lz4LegacyWriter Sink) :=
  match writer.writeExact (LittleEndian.encode 4 lz4LegacyFrameMagic) sink with
  | (.error failure, _) => .error failure
  | (.ok (), sink) => .ok ⟨sink, false⟩

def writeBlock (lz4 : Lz4) (writer : Writer Sink) (block : Bytes) (sink : Sink) :
    Result Unit × Sink :=
  if block = [] then (.ok (), sink)
  else
    let compressed := lz4.compress block
    if compressed = [] then (.error (.err "LZ4 compression failed"), sink)
    else
      match writer.writeExact (LittleEndian.encode 4 compressed.length) sink with
      | (.error failure, sink) => (.error failure, sink)
      | (.ok (), sink) => writer.writeExact compressed sink

def write (lz4 : Lz4) (writer : Writer Sink) (state : Lz4LegacyWriter Sink) (bytes : Bytes) :
    Result Nat × Lz4LegacyWriter Sink :=
  if state.footerWritten then
    (.error (.err "Write called after LZ4 frame was closed"), state)
  else
    let block := bytes.take lz4LegacyFrameBlockSize
    match writeBlock lz4 writer block state.sink with
    | (.error failure, sink) => (.error failure, { state with sink })
    | (.ok (), sink) =>
        if bytes.length ≤ lz4LegacyFrameBlockSize then
          match writer.writeExact (LittleEndian.encode 4 0) sink with
          | (.error failure, sink) => (.error failure, { state with sink })
          | (.ok (), sink) => (.ok block.length, ⟨sink, true⟩)
        else (.ok block.length, { state with sink })

def toWriter (lz4 : Lz4) (writer : Writer Sink) : Writer (Lz4LegacyWriter Sink) :=
  ⟨write lz4 writer⟩

end Lz4LegacyWriter

/-! ## Reading -/

structure Lz4LegacyReader (Source : Type) where
  source : Source
  decompressed : Bytes

namespace Lz4LegacyReader

/-- `Lz4LegacyReader`. -/
def create (reader : Reader Source) (source : Source) : Result (Lz4LegacyReader Source) :=
  match reader.readExact 4 source with
  | (.error failure, _) => .error failure
  | (.ok bytes, source) =>
      if LittleEndian.decode bytes = lz4LegacyFrameMagic then .ok ⟨source, []⟩
      else .error (.err "magic")

/-- The part of `Read` that gets the next block. It returns `false` where `Read` returns 0. -/
def refill (lz4 : Lz4) (reader : Reader Source) (state : Lz4LegacyReader Source) :
    Result Bool × Lz4LegacyReader Source :=
  match reader.read state.source 1 with
  | (.error failure, source) => (.error failure, { state with source })
  | (.ok [], source) => (.ok false, { state with source })
  | (.ok (first :: _), source) =>
      match reader.readExact 3 source with
      | (.error failure, source) => (.error failure, { state with source })
      | (.ok others, source) =>
          let length := LittleEndian.decode (first :: others)
          if length = 0 then (.ok false, { state with source })
          else
            match reader.readExact length source with
            | (.error failure, source) => (.error failure, { state with source })
            | (.ok compressed, source) =>
                let (lz4Length, decompressed) :=
                  lz4.decompressSafe compressed lz4LegacyFrameBlockSize
                if lz4Length < 0 then (.error (.err "lz4_length"), ⟨source, decompressed⟩)
                else if lz4Length = 0 then (.ok false, ⟨source, decompressed⟩)
                else (.ok true, ⟨source, decompressed.take lz4Length.toNat⟩)

def take (state : Lz4LegacyReader Source) (count : Nat) :
    Result Bytes × Lz4LegacyReader Source :=
  (.ok (state.decompressed.take count),
    { state with decompressed := state.decompressed.drop count })

def read (lz4 : Lz4) (reader : Reader Source) (state : Lz4LegacyReader Source) (count : Nat) :
    Result Bytes × Lz4LegacyReader Source :=
  if state.decompressed = [] then
    match refill lz4 reader state with
    | (.error failure, state) => (.error failure, state)
    | (.ok false, state) => (.ok [], state)
    | (.ok true, state) => state.take count
  else state.take count

def toReader (lz4 : Lz4) (reader : Reader Source) : Reader (Lz4LegacyReader Source) :=
  ⟨read lz4 reader⟩

end Lz4LegacyReader

/-! ## What is written -/

namespace Lz4

variable (lz4 : Lz4)

def frame (block : Bytes) : Bytes :=
  LittleEndian.encode 4 (lz4.compress block).length ++ lz4.compress block

def IsFooter (footer : Bytes) : Prop := footer = [] ∨ footer = LittleEndian.encode 4 0

end Lz4

open Lz4

section Writing

variable {lz4 : Lz4} (roundTrips : lz4.RoundTrips) {writer : Writer Sink}
  (receives : Receives writer)

theorem Receives.writeExact (bytes : Bytes) {sink : Sink} {received : Bytes}
    (before : receives.Received sink received) :
    ∃ next, writer.writeExact bytes sink = (.ok (), next) ∧
      receives.Received next (received ++ bytes) :=
  receives.writeAll "Write returned 0 before completing" bytes before

include roundTrips in
theorem writeBlock_received {block : Bytes} (isBlock : IsBlock block) {sink : Sink}
    {received : Bytes} (before : receives.Received sink received) :
    ∃ next, Lz4LegacyWriter.writeBlock lz4 writer block sink = (.ok (), next) ∧
      receives.Received next (received ++ lz4.frame block) := by
  rcases receives.writeExact (LittleEndian.encode 4 (lz4.compress block).length) before with
    ⟨between, writeLength, hasLength⟩
  rcases receives.writeExact (lz4.compress block) hasLength with ⟨next, writeBlock, hasBlock⟩
  rw [List.append_assoc] at hasBlock
  refine ⟨next, ?_, hasBlock⟩
  rw [Lz4LegacyWriter.writeBlock, if_neg isBlock.nonempty]
  simp only [if_neg (roundTrips.compresses isBlock), writeLength, writeBlock]

include roundTrips in
theorem write_block {bytes : Bytes} (long : lz4LegacyFrameBlockSize < bytes.length) {sink : Sink}
    {received : Bytes} (before : receives.Received sink received) :
    ∃ next, Lz4LegacyWriter.write lz4 writer ⟨sink, false⟩ bytes =
        (.ok lz4LegacyFrameBlockSize, ⟨next, false⟩) ∧
      IsBlock (bytes.take lz4LegacyFrameBlockSize) ∧
      receives.Received next (received ++ lz4.frame (bytes.take lz4LegacyFrameBlockSize)) := by
  have length : (bytes.take lz4LegacyFrameBlockSize).length = lz4LegacyFrameBlockSize := by
    rw [List.length_take]
    omega
  have isBlock : IsBlock (bytes.take lz4LegacyFrameBlockSize) := by
    constructor
    · apply List.ne_nil_of_length_pos
      rw [length]
      decide
    · exact Nat.le_of_eq length
  rcases writeBlock_received roundTrips receives isBlock before with ⟨next, written, hasBlock⟩
  refine ⟨next, ?_, isBlock, hasBlock⟩
  rw [Lz4LegacyWriter.write, if_neg Bool.false_ne_true]
  simp only [written, if_neg (Nat.not_le_of_gt long), length]

include roundTrips in
theorem write_last {bytes : Bytes} (isBlock : IsBlock bytes) {sink : Sink} {received : Bytes}
    (before : receives.Received sink received) :
    ∃ next, Lz4LegacyWriter.write lz4 writer ⟨sink, false⟩ bytes =
        (.ok bytes.length, ⟨next, true⟩) ∧
      receives.Received next (received ++ lz4.frame bytes ++ LittleEndian.encode 4 0) := by
  have whole : bytes.take lz4LegacyFrameBlockSize = bytes :=
    List.take_of_length_le isBlock.length_le
  rcases writeBlock_received roundTrips receives isBlock before with ⟨between, written, hasBlock⟩
  rcases receives.writeExact (LittleEndian.encode 4 0) hasBlock with ⟨next, closed, hasFooter⟩
  refine ⟨next, ?_, hasFooter⟩
  rw [Lz4LegacyWriter.write, if_neg Bool.false_ne_true]
  simp only [whole, written, if_pos isBlock.length_le, closed]

include roundTrips in
theorem writeExact_frames (bytes : Bytes) {sink : Sink} {received : Bytes}
    (before : receives.Received sink received) :
    ∃ (final : Lz4LegacyWriter Sink) (blocks : List Bytes) (footer : Bytes),
      (Lz4LegacyWriter.toWriter lz4 writer).writeExact bytes ⟨sink, false⟩ = (.ok (), final) ∧
      (∀ block ∈ blocks, IsBlock block) ∧ blocks.flatten = bytes ∧ IsFooter footer ∧
      receives.Received final.sink (received ++ blocks.flatMap lz4.frame ++ footer) := by
  obtain ⟨size, isSize⟩ : ∃ size, bytes.length = size := ⟨_, rfl⟩
  induction size using Nat.strongRecOn generalizing bytes sink received with
  | ind size induction =>
      rw [Writer.writeExact, Writer.writeAll]
      by_cases isEmpty : bytes = []
      · refine ⟨⟨sink, false⟩, [], [], if_pos isEmpty, ?_, isEmpty.symm, .inl rfl, ?_⟩
        · intro block member
          cases member
        · simpa using before
      · rw [if_neg isEmpty]
        have positive := List.length_pos_iff.mpr isEmpty
        by_cases fits : bytes.length ≤ lz4LegacyFrameBlockSize
        · rcases write_last roundTrips receives ⟨isEmpty, fits⟩ before with
            ⟨next, written, received⟩
          refine ⟨⟨next, true⟩, [bytes], LittleEndian.encode 4 0, ?_, ?_, ?_, .inr rfl, ?_⟩
          · simp only [Lz4LegacyWriter.toWriter, written, if_neg (Nat.ne_of_gt positive),
              List.drop_length]
            rw [Writer.writeAll, if_pos rfl]
          · intro block member
            rw [List.mem_singleton.mp member]
            exact ⟨isEmpty, fits⟩
          · simp
          · simpa using received
        · rcases write_block roundTrips receives (Nat.lt_of_not_le fits) before with
            ⟨next, written, isBlock, received⟩
          have sizePositive : lz4LegacyFrameBlockSize ≠ 0 := by decide
          have shorter : (bytes.drop lz4LegacyFrameBlockSize).length < size := by
            rw [List.length_drop]
            omega
          rcases induction _ shorter (bytes.drop lz4LegacyFrameBlockSize) received rfl with
            ⟨final, blocks, footer, writeRest, areBlocks, isRest, isFooter, all⟩
          refine ⟨final, bytes.take lz4LegacyFrameBlockSize :: blocks, footer, ?_, ?_, ?_,
            isFooter, ?_⟩
          · rw [Lz4LegacyWriter.toWriter] at writeRest ⊢
            simp only [written, if_neg sizePositive]
            exact writeRest
          · intro block member
            rcases List.mem_cons.mp member with isFirst | inRest
            · exact isFirst ▸ isBlock
            · exact areBlocks block inRest
          · rw [List.flatten_cons, isRest, List.take_append_drop]
          · simpa using all

end Writing

/-! ## What is read -/

namespace Streams

variable {reader : Reader Source} (streams : Streams reader)

theorem read_one {source : Source} {byte : UInt8} {rest : Bytes}
    (isLeft : streams.Left source (byte :: rest)) :
    ∃ next, reader.read source 1 = (.ok [byte], next) ∧ streams.Left next rest := by
  rcases streams.read 1 isLeft with ⟨bytes, later, next, read, split, short, some, nextLeft⟩
  cases bytes with
  | nil => exact absurd (some rfl) (by simp)
  | cons first others =>
      have noOthers : others = [] := by
        apply List.length_eq_zero_iff.mp
        rw [List.length_cons] at short
        omega
      rw [noOthers] at read split
      rw [List.singleton_append] at split
      rcases List.cons.inj split with ⟨isFirst, isLater⟩
      rw [isFirst, isLater]
      exact ⟨next, read, nextLeft⟩

theorem read_end {source : Source} (isLeft : streams.Left source []) (count : Nat) :
    ∃ next, reader.read source count = (.ok [], next) ∧ streams.Left next [] := by
  rcases streams.read count isLeft with ⟨bytes, rest, next, read, split, -, -, nextLeft⟩
  rcases List.append_eq_nil_iff.mp split.symm with ⟨noBytes, noRest⟩
  rw [noBytes] at read
  rw [noRest] at nextLeft
  exact ⟨next, read, nextLeft⟩

theorem read_length {source : Source} {length : Nat} (fits : length < 4294967296) {rest : Bytes}
    (isLeft : streams.Left source (LittleEndian.encode 4 length ++ rest)) :
    ∃ first others between next, reader.read source 1 = (.ok [first], between) ∧
      reader.readExact 3 between = (.ok others, next) ∧
        LittleEndian.decode (first :: others) = length ∧ streams.Left next rest := by
  have whole : LittleEndian.encode 4 length =
      UInt8.ofNat length :: LittleEndian.encode 3 (length / 256) := rfl
  have decoded := @LittleEndian.decode_encode 4 length fits
  rw [whole] at isLeft decoded
  rcases streams.read_one isLeft with ⟨between, readFirst, betweenLeft⟩
  rcases streams.readExact betweenLeft with ⟨next, readOthers, nextLeft⟩
  rw [LittleEndian.length_encode] at readOthers
  exact ⟨_, _, between, next, readFirst, readOthers, decoded, nextLeft⟩

end Streams

section Reading

variable {lz4 : Lz4} (roundTrips : lz4.RoundTrips) {reader : Reader Source}
  (streams : Streams reader)

def BlocksLeft (lz4 : Lz4) (streams : Streams reader) (state : Lz4LegacyReader Source)
    (left : Bytes) : Prop :=
  ∃ (blocks : List Bytes) (footer : Bytes), (∀ block ∈ blocks, IsBlock block) ∧ IsFooter footer ∧
    streams.Left state.source (blocks.flatMap lz4.frame ++ footer) ∧
      left = state.decompressed ++ blocks.flatten

theorem refill_footer {footer : Bytes} (isFooter : IsFooter footer) {source : Source}
    (isLeft : streams.Left source footer) :
    ∃ next, Lz4LegacyReader.refill lz4 reader ⟨source, []⟩ = (.ok false, ⟨next, []⟩) ∧
      streams.Left next [] := by
  rcases isFooter with isEmpty | isZero
  · rw [isEmpty] at isLeft
    rcases streams.read_end isLeft 1 with ⟨next, read, nextLeft⟩
    refine ⟨next, ?_, nextLeft⟩
    rw [Lz4LegacyReader.refill, read]
  · rw [isZero, ← List.append_nil (LittleEndian.encode 4 0)] at isLeft
    rcases streams.read_length (by decide) isLeft with
      ⟨first, others, between, next, readFirst, readOthers, decoded, nextLeft⟩
    refine ⟨next, ?_, nextLeft⟩
    rw [Lz4LegacyReader.refill, readFirst]
    simp only [readOthers, decoded, if_true]

include roundTrips in
theorem refill_block {block : Bytes} (isBlock : IsBlock block) {source : Source} {rest : Bytes}
    (isLeft : streams.Left source (lz4.frame block ++ rest)) :
    ∃ next, Lz4LegacyReader.refill lz4 reader ⟨source, []⟩ = (.ok true, ⟨next, block⟩) ∧
      streams.Left next rest := by
  have isInt := roundTrips.length_lt isBlock
  rw [Lz4.frame, List.append_assoc] at isLeft
  rcases streams.read_length (by omega) isLeft with
    ⟨first, others, between, behind, readFirst, readOthers, decoded, behindLeft⟩
  rcases streams.readExact behindLeft with ⟨next, readBlock, nextLeft⟩
  rcases roundTrips.decompresses isBlock with ⟨stale, decompressed⟩
  have lengthPositive := List.length_pos_iff.mpr (roundTrips.compresses isBlock)
  have blockPositive := List.length_pos_iff.mpr isBlock.nonempty
  have notNegative : ¬ (block.length : Int) < 0 := by omega
  have notZero : ¬ (block.length : Int) = 0 := by omega
  refine ⟨next, ?_, nextLeft⟩
  rw [Lz4LegacyReader.refill, readFirst]
  simp only [readOthers, decoded, if_neg (Nat.ne_of_gt lengthPositive), readBlock, decompressed,
    if_neg notNegative, if_neg notZero, Int.toNat_natCast, List.take_left]

include roundTrips in
theorem refill_spec {state : Lz4LegacyReader Source} (isEmpty : state.decompressed = [])
    {left : Bytes} (isLeft : BlocksLeft lz4 streams state left) :
    ∃ found next, Lz4LegacyReader.refill lz4 reader state = (.ok found, next) ∧
      BlocksLeft lz4 streams next left ∧ (found = false → left = []) ∧
        (found = true → next.decompressed ≠ []) := by
  rcases isLeft with ⟨blocks, footer, areBlocks, isFooter, sourceLeft, isLeft⟩
  have isState : state = ⟨state.source, []⟩ := by rw [← isEmpty]
  rw [isEmpty, List.nil_append] at isLeft
  rw [isState]
  cases blocks with
  | nil =>
      rcases refill_footer streams isFooter sourceLeft with ⟨next, refilled, nextLeft⟩
      refine ⟨false, ⟨next, []⟩, refilled, ?_, fun _ => isLeft, by simp⟩
      exact ⟨[], [], by simp, .inl rfl, nextLeft, isLeft⟩
  | cons block blocks =>
      have isBlock := areBlocks block List.mem_cons_self
      rw [List.flatMap_cons, List.append_assoc] at sourceLeft
      rcases refill_block roundTrips streams isBlock sourceLeft with ⟨next, refilled, nextLeft⟩
      refine ⟨true, ⟨next, block⟩, refilled, ?_, by simp, fun _ => isBlock.nonempty⟩
      exact ⟨blocks, footer, fun other member => areBlocks other (List.mem_cons_of_mem block member),
        isFooter, nextLeft, isLeft⟩

theorem take_spec {state : Lz4LegacyReader Source} (some : state.decompressed ≠ [])
    {left : Bytes} (isLeft : BlocksLeft lz4 streams state left) (count : Nat) :
    ∃ bytes rest next, state.take count = (.ok bytes, next) ∧ left = bytes ++ rest ∧
      bytes.length ≤ count ∧ (bytes = [] → count = 0 ∨ left = []) ∧
        BlocksLeft lz4 streams next rest := by
  rcases isLeft with ⟨blocks, footer, areBlocks, isFooter, sourceLeft, isLeft⟩
  refine ⟨state.decompressed.take count, state.decompressed.drop count ++ blocks.flatten, _, rfl,
    ?_, List.length_take_le _ _, ?_, blocks, footer, areBlocks, isFooter, sourceLeft, rfl⟩
  · rw [isLeft, ← List.append_assoc, List.take_append_drop]
  · intro isEmpty
    exact .inl ((List.take_eq_nil_iff.mp isEmpty).resolve_right some)

def lz4Streams (roundTrips : lz4.RoundTrips) (streams : Streams reader) :
    Streams (Lz4LegacyReader.toReader lz4 reader) where
  Left := BlocksLeft lz4 streams
  read {state left} count isLeft := by
    change ∃ bytes rest next, Lz4LegacyReader.read lz4 reader state count = (.ok bytes, next) ∧ _
    rw [Lz4LegacyReader.read]
    by_cases isEmpty : state.decompressed = []
    · rcases refill_spec roundTrips streams isEmpty isLeft with
        ⟨found, next, refilled, nextLeft, ended, some⟩
      rw [if_pos isEmpty, refilled]
      cases found with
      | false =>
          have noneLeft := ended rfl
          exact ⟨[], left, next, rfl, rfl, Nat.zero_le _, fun _ => .inr noneLeft, nextLeft⟩
      | true => exact take_spec streams (some rfl) nextLeft count
    · rw [if_neg isEmpty]
      exact take_spec streams isEmpty isLeft count

end Reading

/-! ## The whole way -/

/-- What is written through the writer of the frames is read through their reader: all of it by
`ReadToString`, and in reads of any sizes one after another its first bytes, with the others
left. -/
theorem lz4Legacy_roundTrip {lz4 : Lz4} (roundTrips : lz4.RoundTrips) {writer : Writer Sink}
    (receives : Receives writer) {sink : Sink} (fresh : receives.Received sink [])
    {reader : Reader Source} (streams : Streams reader) (data : Bytes) :
    ∃ opened final produced, Lz4LegacyWriter.create writer sink = .ok opened ∧
      (Lz4LegacyWriter.toWriter lz4 writer).writeExact data opened = (.ok (), final) ∧
      receives.Received final.sink produced ∧
      ∀ source, streams.Left source produced →
        ∃ start, Lz4LegacyReader.create reader source = .ok start ∧
          (Lz4LegacyReader.toReader lz4 reader).ReadsToString start data ∧
          ∀ sizes, ∃ bytes next,
            (Lz4LegacyReader.toReader lz4 reader).readSizes sizes start = (.ok bytes, next) ∧
            bytes <+: data ∧
            (Lz4LegacyReader.toReader lz4 reader).ReadsToString next (data.drop bytes.length) := by
  rcases receives.writeExact (LittleEndian.encode 4 lz4LegacyFrameMagic) fresh with
    ⟨opened, writeMagic, hasMagic⟩
  rcases writeExact_frames roundTrips receives data hasMagic with
    ⟨final, blocks, footer, written, areBlocks, isData, isFooter, hasAll⟩
  rw [List.nil_append, List.append_assoc] at hasAll
  refine ⟨⟨opened, false⟩, final, _, ?_, written, hasAll, ?_⟩
  · rw [Lz4LegacyWriter.create, writeMagic]
  intro source isLeft
  rcases streams.readExact isLeft with ⟨behind, readMagic, behindLeft⟩
  rw [LittleEndian.length_encode] at readMagic
  have isMagic : LittleEndian.decode (LittleEndian.encode 4 lz4LegacyFrameMagic) =
      lz4LegacyFrameMagic := LittleEndian.decode_encode (by decide)
  have blocksLeft : (lz4Streams roundTrips streams).Left ⟨behind, []⟩ data :=
    ⟨blocks, footer, areBlocks, isFooter, behindLeft, isData.symm⟩
  refine ⟨⟨behind, []⟩, ?_, (lz4Streams roundTrips streams).readsToString blocksLeft, ?_⟩
  · rw [Lz4LegacyReader.create, readMagic]
    exact if_pos isMagic
  intro sizes
  rcases (lz4Streams roundTrips streams).readSizes sizes blocksLeft with
    ⟨bytes, rest, next, read, split, restLeft⟩
  refine ⟨bytes, next, read, ⟨rest, split.symm⟩, ?_⟩
  rw [split, List.drop_left]
  exact (lz4Streams roundTrips streams).readsToString restLeft

/-! ## Blocks of literals -/

namespace Lz4

def encodeExtra (extra : Nat) : Bytes :=
  List.replicate (extra / 255) 255 ++ [UInt8.ofNat (extra % 255)]

def decodeExtra : Bytes → Option (Nat × Bytes)
  | [] => none
  | byte :: rest =>
      if byte = 255 then (decodeExtra rest).map fun (extra, rest) => (extra + 255, rest)
      else some (byte.toNat, rest)

def decodeToken : Bytes → Option (Nat × Bytes)
  | [] => none
  | token :: rest =>
      if token.toNat / 16 < 15 then some (token.toNat / 16, rest)
      else (decodeExtra rest).map fun (extra, rest) => (extra + 15, rest)

/-- LZ4 for blocks that are compressed to their literals, as all short ones are. -/
def literals : Lz4 where
  compressBound size := size + size / 255 + 16
  compressDefault src _ :=
    if src.length < 15 then UInt8.ofNat (16 * src.length) :: src
    else 240 :: encodeExtra (src.length - 15) ++ src
  decompressSafe src dstCapacity :=
    match decodeToken src with
    | none => (-1, Bytes.zeros dstCapacity)
    | some (length, rest) =>
        if rest.length = length ∧ length ≤ dstCapacity then
          (length, rest ++ Bytes.zeros (dstCapacity - length))
        else (-1, Bytes.zeros dstCapacity)

theorem decodeExtra_encodeExtra (extra : Nat) (rest : Bytes) :
    decodeExtra (encodeExtra extra ++ rest) = some (extra, rest) := by
  have whole : 255 * (extra / 255) + extra % 255 = extra := Nat.div_add_mod extra 255
  have last : extra % 255 < 255 := Nat.mod_lt _ (by decide)
  rw [encodeExtra]
  generalize extra / 255 = times at whole
  generalize extra % 255 = small at whole last
  rw [← whole]
  clear whole
  induction times with
  | zero =>
      have isByte : (UInt8.ofNat small).toNat = small := by
        rw [UInt8.toNat_ofNat']
        exact Nat.mod_eq_of_lt (by omega)
      have notMax : UInt8.ofNat small ≠ 255 := by
        intro isMax
        rw [isMax] at isByte
        exact absurd isByte (by simp; omega)
      simp [decodeExtra, notMax, isByte]
  | succ times induction =>
      rw [List.replicate_succ, List.cons_append, List.cons_append, decodeExtra, if_pos rfl,
        induction]
      simp only [Option.map_some, Option.some.injEq, Prod.mk.injEq, and_true]
      omega

theorem decodeToken_literals (block : Bytes) :
    decodeToken (literals.compress block) = some (block.length, block) := by
  rw [compress, literals]
  dsimp only
  by_cases short : block.length < 15
  · have isByte : (UInt8.ofNat (16 * block.length)).toNat = 16 * block.length := by
      rw [UInt8.toNat_ofNat']
      exact Nat.mod_eq_of_lt (by omega)
    have nibble : 16 * block.length / 16 = block.length := by omega
    rw [if_pos short, decodeToken, isByte, nibble, if_pos short]
  · rw [if_neg short, List.cons_append, decodeToken, if_neg (by decide),
      decodeExtra_encodeExtra]
    simp only [Option.map_some, Option.some.injEq, Prod.mk.injEq, and_true]
    omega

theorem length_literals_le (block : Bytes) :
    (literals.compress block).length ≤ block.length + block.length / 255 + 16 := by
  rw [compress, literals]
  dsimp only
  split
  · simp only [List.length_cons]
    omega
  · simp only [encodeExtra, List.length_append, List.length_cons, List.length_replicate,
      List.length_nil]
    omega

theorem literals_roundTrips : RoundTrips literals where
  compresses {block} isBlock isEmpty := by
    have token := decodeToken_literals block
    rw [isEmpty] at token
    cases token
  length_lt {block} isBlock := by
    have bound := length_literals_le block
    have small : block.length ≤ 8388608 := isBlock.length_le
    omega
  decompresses {block} isBlock := by
    refine ⟨Bytes.zeros (lz4LegacyFrameBlockSize - block.length), ?_⟩
    change (match decodeToken (literals.compress block) with | none => _ | some (length, rest) => _) = _
    rw [decodeToken_literals]
    exact if_pos ⟨rfl, isBlock.length_le⟩

end Lz4

def Writer.append : Writer Bytes where
  write received bytes := (.ok bytes.length, received ++ bytes)

def Receives.append : Receives Writer.append where
  Received state received := state = received
  write {state received} bytes isReceived :=
    ⟨bytes.length, received ++ bytes, isReceived ▸ rfl, Nat.le_refl _, List.length_pos_iff.mpr, by
      rw [List.take_length]⟩

theorem lz4Legacy_roundTrip_example :
    ∃ opened final produced, Lz4LegacyWriter.create Writer.append [] = .ok opened ∧
      (Lz4LegacyWriter.toWriter Lz4.literals Writer.append).writeExact [1, 2, 3] opened =
        (.ok (), final) ∧
      final.sink = produced ∧
      ∀ source, source = produced →
        ∃ start, Lz4LegacyReader.create (Reader.inParts 1) source = .ok start ∧
          (Lz4LegacyReader.toReader Lz4.literals (Reader.inParts 1)).ReadsToString start
            [1, 2, 3] ∧
          ∀ sizes, ∃ bytes next,
            (Lz4LegacyReader.toReader Lz4.literals (Reader.inParts 1)).readSizes sizes start =
              (.ok bytes, next) ∧
            bytes <+: [1, 2, 3] ∧
            (Lz4LegacyReader.toReader Lz4.literals (Reader.inParts 1)).ReadsToString next
              ([1, 2, 3].drop bytes.length) :=
  lz4Legacy_roundTrip Lz4.literals_roundTrips Receives.append rfl (Streams.inParts 1) [1, 2, 3]

end Cuttlefish.Io
