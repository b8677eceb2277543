import Cuttlefish.Foundation.MachineInt
import Cuttlefish.Fs.SharedBuf
import Cuttlefish.Io.Streams

/-! # Copying

`Copy` and `SparseCopy` of `io/copy.cc`. Both read into one buffer again and again; what is in the
buffer at first is not known. -/

namespace Cuttlefish.Io

open Fs

variable {Source Sink : Type}

/-- `WriterSeeker`, with the methods that are used for copying. -/
structure WriterSeeker (State : Type) where
  write : State → Bytes → Result Nat × State
  seekSet : State → (offset : Nat) → Result Nat × State
  seekCur : State → (offset : Int) → Result Nat × State
  truncate : State → (size : Nat) → Result Unit × State

def WriterSeeker.toWriter (writer : WriterSeeker Sink) : Writer Sink := ⟨writer.write⟩

def bufferSize : Nat := 67108864

def eachChunk (reader : Reader Source) (body : (buffer chunk : Bytes) → Sink → Result Unit × Sink) :
    (fuel : Nat) → (buffer : Bytes) → Source → Sink → Option (Result Unit × Sink)
  | 0, _, _, _ => none
  | fuel + 1, buffer, source, sink =>
      match reader.read source bufferSize with
      | (.error failure, _) => some (.error failure, sink)
      | (.ok [], _) => some (.ok (), sink)
      | (.ok (byte :: bytes), source) =>
          let buffer := byte :: bytes ++ buffer.drop (bytes.length + 1)
          match body buffer (byte :: bytes) sink with
          | (.error failure, sink) => some (.error failure, sink)
          | (.ok (), sink) => eachChunk reader body fuel buffer source sink

def copyChunk (writer : Writer Sink) (chunk : Bytes) (sink : Sink) : Result Unit × Sink :=
  writer.writeAll "Premature EOF on writer" chunk sink

def copy (reader : Reader Source) (writer : Writer Sink) (fuel : Nat) (buffer : Bytes)
    (source : Source) (sink : Sink) : Option (Result Unit × Sink) :=
  eachChunk reader (fun _ chunk => copyChunk writer chunk) fuel buffer source sink

def isZeroChunk (buffer : Bytes) (chunkRead : Nat) : Bool :=
  buffer.getD 0 0 = 0 && buffer.getD (chunkRead - 1) 0 = 0 && buffer.all (· = 0)

def sparseCopyChunk (writer : WriterSeeker Sink) (buffer chunk : Bytes) (state : Nat × Sink) :
    Result Unit × (Nat × Sink) :=
  let totalSize := toUInt64 (state.1 + chunk.length)
  if isZeroChunk buffer chunk.length then
    match writer.truncate state.2 totalSize with
    | (.error failure, sink) => (.error failure, totalSize, sink)
    | (.ok (), sink) =>
        match writer.seekCur sink chunk.length with
        | (.error failure, sink) => (.error failure, totalSize, sink)
        | (.ok _, sink) => (.ok (), totalSize, sink)
  else
    let (result, sink) := copyChunk writer.toWriter chunk state.2
    (result, totalSize, sink)

def sparseCopy (reader : Reader Source) (writer : WriterSeeker Sink) (fuel : Nat) (buffer : Bytes)
    (source : Source) (sink : Sink) : Option (Result Unit × Sink) :=
  match writer.seekSet sink 0 with
  | (.error failure, sink) => some (.error failure, sink)
  | (.ok _, sink) =>
      match eachChunk reader (sparseCopyChunk writer) fuel buffer source (0, sink) with
      | none => none
      | some (.error failure, _, sink) => some (.error failure, sink)
      | some (.ok (), _, sink) =>
          match writer.write sink [] with
          | (.error failure, sink) => some (.error failure, sink)
          | (.ok _, sink) => some (.ok (), sink)

/-! ## The loop -/

theorem eachChunk_done {reader : Reader Source} (streams : Streams reader)
    {body : (buffer chunk : Bytes) → Sink → Result Unit × Sink} {Done : Bytes → Sink → Prop}
    {data : Bytes}
    (step : ∀ {done buffer chunk : Bytes} {sink : Sink}, Done done sink → chunk <+: buffer →
      done ++ chunk <+: data →
        ∃ next, body buffer chunk sink = (.ok (), next) ∧ Done (done ++ chunk) next)
    {done left : Bytes} {source : Source} {sink : Sink} (isLeft : streams.Left source left)
    (isData : done ++ left = data) (isDone : Done done sink) (buffer : Bytes) :
    ∃ fuel final, eachChunk reader body fuel buffer source sink = some (.ok (), final) ∧
      Done data final := by
  obtain ⟨size, isSize⟩ : ∃ size, left.length = size := ⟨_, rfl⟩
  induction size using Nat.strongRecOn generalizing done left source sink buffer with
  | ind size induction =>
      rcases streams.read bufferSize isLeft with
        ⟨chunk, rest, nextSource, read, split, -, some, nextLeft⟩
      cases chunk with
      | nil =>
          have ended : left = [] := (some rfl).resolve_left (by decide)
          rw [ended, List.append_nil] at isData
          refine ⟨1, sink, ?_, isData ▸ isDone⟩
          rw [eachChunk, read]
      | cons byte bytes =>
          rw [split, ← List.append_assoc] at isData
          rcases step isDone (List.prefix_append (byte :: bytes) (buffer.drop (bytes.length + 1)))
            ⟨rest, isData⟩ with ⟨nextSink, handled, nextDone⟩
          have shorter : rest.length < size := by
            rw [← isSize, split, List.length_append, List.length_cons]
            omega
          rcases induction rest.length shorter nextLeft isData nextDone
            (byte :: bytes ++ buffer.drop (bytes.length + 1)) rfl with ⟨fuel, final, later, all⟩
          refine ⟨fuel + 1, final, ?_, all⟩
          rw [eachChunk, read]
          simp only [handled, later]

theorem copy_received {reader : Reader Source} (streams : Streams reader) {writer : Writer Sink}
    (receives : Receives writer) {source : Source} {data : Bytes}
    (isLeft : streams.Left source data) {sink : Sink} (fresh : receives.Received sink [])
    (buffer : Bytes) :
    ∃ fuel final, copy reader writer fuel buffer source sink = some (.ok (), final) ∧
      receives.Received final data := by
  apply eachChunk_done streams _ isLeft (List.nil_append data) fresh buffer
  intro done buffer chunk sink received _ _
  exact receives.writeAll "Premature EOF on writer" chunk received

/-! ## Writers to files -/

/-- The writer has the semantics of `write(2)`, `lseek(2)` and `ftruncate(2)` on a file. -/
structure Posix (writer : WriterSeeker Sink) where
  file : Sink → OpenFile
  write : ∀ sink bytes, ∃ written next, writer.write sink bytes = (.ok written, next) ∧
    written ≤ bytes.length ∧ (bytes ≠ [] → 0 < written) ∧
      file next = (file sink).write (bytes.take written)
  seekSet : ∀ sink offset, ∃ next, writer.seekSet sink offset = (.ok offset, next) ∧
    file next = (file sink).lseek offset
  seekCur : ∀ sink (offset : Nat), ∃ next,
    writer.seekCur sink offset = (.ok ((file sink).position + offset), next) ∧
      file next = (file sink).lseek ((file sink).position + offset)
  truncate : ∀ sink size, ∃ next, writer.truncate sink size = (.ok (), next) ∧
    file next = (file sink).truncate size

namespace Posix

variable {writer : WriterSeeker Sink} (posix : Posix writer)

/-- The file is written to from its start to its end. -/
def Holds (sink : Sink) (content : Bytes) : Prop :=
  posix.file sink = ⟨content, content.length⟩

/-- A file that is written to at its end receives what is written. -/
def receives : Receives writer.toWriter where
  Received := posix.Holds
  write {sink content} bytes holds := by
    rcases posix.write sink bytes with ⟨written, next, write, short, some, isFile⟩
    refine ⟨written, next, write, short, some, ?_⟩
    rw [Holds, isFile, holds, OpenFile.write_of_atEnd _ _ rfl]
    simp

def Copied (done : Bytes) (state : Nat × Sink) : Prop :=
  state.1 = done.length ∧ posix.Holds state.2 done

theorem truncate_seekCur {sink : Sink} {content chunk : Bytes} (holds : posix.Holds sink content)
    (zeros : ∀ byte ∈ chunk, byte = 0) :
    ∃ between next,
      writer.truncate sink (content.length + chunk.length) = (.ok (), between) ∧
        writer.seekCur between chunk.length = (.ok (content.length + chunk.length), next) ∧
          posix.Holds next (content ++ chunk) := by
  rcases posix.truncate sink (content.length + chunk.length) with ⟨between, truncated, isFile⟩
  rcases posix.seekCur between chunk.length with ⟨next, moved, isNext⟩
  have isZeros : chunk = List.replicate chunk.length 0 := List.eq_replicate_of_mem zeros
  have grown : posix.file between = ⟨content ++ chunk, content.length⟩ := by
    have all : content.take (content.length + chunk.length) = content :=
      List.take_of_length_le (Nat.le_add_right _ _)
    rw [isFile, holds, OpenFile.truncate]
    dsimp only
    rw [all, Nat.add_sub_cancel_left, ← isZeros]
  rw [grown] at moved isNext
  refine ⟨between, next, truncated, moved, ?_⟩
  rw [Holds, isNext, OpenFile.lseek, List.length_append]

end Posix

def fileWriter : WriterSeeker OpenFile where
  write file bytes := (.ok bytes.length, file.write bytes)
  seekSet file offset := (.ok offset, file.lseek offset)
  seekCur file offset := (.ok (file.position + offset).toNat, file.lseek (file.position + offset).toNat)
  truncate file size := (.ok (), file.truncate size)

def Posix.fileWriter : Posix fileWriter where
  file file := file
  write file bytes :=
    ⟨bytes.length, file.write bytes, rfl, Nat.le_refl _, List.length_pos_iff.mpr, by
      rw [List.take_length]⟩
  seekSet file offset := ⟨file.lseek offset, rfl, rfl⟩
  seekCur file offset := ⟨file.lseek (file.position + offset), rfl, rfl⟩
  truncate file size := ⟨file.truncate size, rfl, rfl⟩

theorem zeros_of_isZeroChunk {buffer chunk : Bytes} (front : chunk <+: buffer)
    (isZero : isZeroChunk buffer chunk.length = true) : ∀ byte ∈ chunk, byte = 0 := by
  intro byte member
  have all : buffer.all (· = 0) = true := (Bool.and_eq_true _ _).mp isZero |>.2
  have isByte := List.all_eq_true.mp all byte (front.subset member)
  simpa using isByte

theorem sparseCopyChunk_copied {writer : WriterSeeker Sink} (posix : Posix writer)
    {done buffer chunk : Bytes} {state : Nat × Sink} (isDone : posix.Copied done state)
    (front : chunk <+: buffer) (fits : done.length + chunk.length < 18446744073709551616) :
    ∃ next, sparseCopyChunk writer buffer chunk state = (.ok (), next) ∧
      posix.Copied (done ++ chunk) next := by
  have total : toUInt64 (state.1 + chunk.length) = done.length + chunk.length := by
    rw [isDone.1, ← Int.natCast_add, toUInt64_of_nonneg (Int.natCast_nonneg _) (by omega),
      Int.toNat_natCast]
  rw [sparseCopyChunk]
  rw [total]
  by_cases isZero : isZeroChunk buffer chunk.length = true
  · rcases posix.truncate_seekCur isDone.2 (zeros_of_isZeroChunk front isZero) with
      ⟨between, next, truncated, moved, holds⟩
    refine ⟨(done.length + chunk.length, next), ?_, List.length_append.symm, holds⟩
    simp only [if_pos isZero, truncated, moved]
  · rcases posix.receives.writeAll "Premature EOF on writer" chunk isDone.2 with
      ⟨next, written, holds⟩
    refine ⟨(done.length + chunk.length, next), ?_, List.length_append.symm, holds⟩
    simp only [if_neg isZero, copyChunk, written]

theorem sparseCopy_holds {reader : Reader Source} (streams : Streams reader)
    {writer : WriterSeeker Sink} (posix : Posix writer) {source : Source} {data : Bytes}
    (isLeft : streams.Left source data) (fits : data.length < 18446744073709551616)
    {sink : Sink} (isEmpty : (posix.file sink).content = []) (buffer : Bytes) :
    ∃ fuel final, sparseCopy reader writer fuel buffer source sink = some (.ok (), final) ∧
      posix.Holds final data := by
  rcases posix.seekSet sink 0 with ⟨start, moved, isFile⟩
  have atStart : posix.Holds start [] := by
    rw [Posix.Holds, isFile, OpenFile.lseek, isEmpty]
    rfl
  have step : ∀ {done buffer chunk : Bytes} {state : Nat × Sink}, posix.Copied done state →
      chunk <+: buffer → done ++ chunk <+: data →
        ∃ next, sparseCopyChunk writer buffer chunk state = (.ok (), next) ∧
          posix.Copied (done ++ chunk) next := by
    intro done buffer chunk state isDone front within
    have bound := within.length_le
    rw [List.length_append] at bound
    exact sparseCopyChunk_copied posix isDone front (Nat.lt_of_le_of_lt bound fits)
  have before : posix.Copied [] (0, start) := ⟨rfl, atStart⟩
  rcases eachChunk_done streams step isLeft (List.nil_append data) before buffer with
    ⟨fuel, ⟨total, last⟩, copied, -, holds⟩
  rcases posix.write last [] with ⟨written, final, wrote, -, -, isFinal⟩
  refine ⟨fuel, final, ?_, ?_⟩
  · simp only [sparseCopy, moved, copied, wrote]
  · rw [Posix.Holds, isFinal, List.take_nil, OpenFile.write_nil]
    exact holds

/-- `SparseCopy` leaves in an empty file what `Copy` leaves in it: the data. -/
theorem sparseCopy_eq_copy {reader : Reader Source} (streams : Streams reader)
    {writer : WriterSeeker Sink} (posix : Posix writer) {source : Source} {data : Bytes}
    (isLeft : streams.Left source data) (fits : data.length < 18446744073709551616)
    {sink : Sink} (isEmpty : posix.file sink = ⟨[], 0⟩) (buffer other : Bytes) :
    ∃ fuel fuel' copied sparse,
      copy reader writer.toWriter fuel buffer source sink = some (.ok (), copied) ∧
      sparseCopy reader writer fuel' other source sink = some (.ok (), sparse) ∧
      (posix.file sparse).content = (posix.file copied).content ∧
      (posix.file copied).content = data := by
  rcases copy_received streams posix.receives isLeft isEmpty buffer with
    ⟨fuel, copied, isCopied, holds⟩
  rcases sparseCopy_holds streams posix isLeft fits (congrArg OpenFile.content isEmpty) other with
    ⟨fuel', sparse, isSparse, sparseHolds⟩
  refine ⟨fuel, fuel', copied, sparse, isCopied, isSparse, ?_, congrArg OpenFile.content holds⟩
  exact congrArg OpenFile.content (sparseHolds.trans holds.symm)

theorem sparseCopy_eq_copy_example :
    ∃ fuel fuel' copied sparse,
      copy (Reader.inParts 1) fileWriter.toWriter fuel (Bytes.zeros bufferSize) [0, 0, 7, 0, 0]
          ⟨[], 0⟩ =
        some (.ok (), copied) ∧
      sparseCopy (Reader.inParts 1) fileWriter fuel' (Bytes.zeros bufferSize) [0, 0, 7, 0, 0]
          ⟨[], 0⟩ =
        some (.ok (), sparse) ∧
      sparse.content = copied.content ∧ copied.content = [0, 0, 7, 0, 0] :=
  sparseCopy_eq_copy (Streams.inParts 1) Posix.fileWriter rfl (by decide) rfl _ _

end Cuttlefish.Io
