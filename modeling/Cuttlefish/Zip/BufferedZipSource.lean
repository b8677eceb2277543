import Cuttlefish.Fs.FileSystem
import Cuttlefish.Io.InMemory
import Cuttlefish.Zip.SeekableSource

/-! # Buffered zip sources

`BufferedZipSourceCallbacks`: reads that fit the buffer are answered from it, and
larger ones go to the data provider. Whatever the sizes are and however short the
reads of the provider, the source is a cursor over the provider's content. -/

namespace Cuttlefish.Zip

open Io

variable {State : Type} {provider : ReaderSeeker State} {content : Bytes}

/-- `BufferedZipSourceCallbacks`, with the state of its data provider. -/
structure BufferedZipSource (State : Type) where
  dataProvider : State
  buffer : Bytes
  size : Nat
  offset : Int
  offsetInBuffer : Nat
  bufferRemaining : Nat

def vectorMaxSize : Nat := 9223372036854775807

namespace BufferedZipSource

def create (provider : ReaderSeeker State) (dataProvider : State) (bufferSize : Nat) :
    Result (BufferedZipSource State) :=
  if vectorMaxSize < bufferSize then .error (.abort "std::length_error")
  else
    match provider.length dataProvider with
    | (.error failure, _) => .error failure
    | (.ok size, dataProvider) =>
        .ok { dataProvider, buffer := Bytes.zeros bufferSize, size, offset := 0,
              offsetInBuffer := 0, bufferRemaining := 0 }

def close (source : BufferedZipSource State) : Bool × BufferedZipSource State :=
  (true, { source with offset := 0, bufferRemaining := 0, offsetInBuffer := 0 })

def open_ (provider : ReaderSeeker State) (source : BufferedZipSource State) :
    Bool × BufferedZipSource State :=
  let source := { source with offset := 0, bufferRemaining := 0, offsetInBuffer := 0 }
  match provider.seekSet source.dataProvider 0 with
  | (.error _, dataProvider) => (false, { source with dataProvider })
  | (.ok _, dataProvider) => (true, { source with dataProvider })

/-- The part of `Read` for requests larger than the buffer. A failed seek returns
`false`, which is no bytes and not an error. -/
def readBypass (provider : ReaderSeeker State) (source : BufferedZipSource State) (len : Nat) :
    Option Bytes × BufferedZipSource State :=
  let source := { source with bufferRemaining := 0 }
  match provider.seekSet source.dataProvider (toUInt64 source.offset) with
  | (.error _, dataProvider) => (some [], { source with dataProvider })
  | (.ok _, dataProvider) =>
      match provider.read dataProvider len with
      | (.error _, dataProvider) => (none, { source with dataProvider })
      | (.ok bytes, dataProvider) =>
          (some bytes, { source with dataProvider, offset := source.offset + bytes.length })

def readBuffered (source : BufferedZipSource State) (len : Nat) :
    Bytes × BufferedZipSource State :=
  let toRead := min len source.bufferRemaining
  (source.buffer.readAt source.offsetInBuffer toRead,
    { source with
      bufferRemaining := source.bufferRemaining - toRead
      offsetInBuffer := source.offsetInBuffer + toRead
      offset := source.offset + toRead })

def bufferFill (source : BufferedZipSource State) : Nat :=
  if source.size < toUInt64 (source.offset + source.buffer.length) then
    toUInt64 (source.size - source.offset)
  else source.buffer.length

/-- `Read`, which fills the buffer and calls itself. -/
def read (provider : ReaderSeeker State) :
    (fuel : Nat) → BufferedZipSource State → (len : Nat) →
      Option (Option Bytes × BufferedZipSource State)
  | 0, _, _ => none
  | fuel + 1, source, len =>
      if source.buffer.length < len then some (readBypass provider source len)
      else if 0 < source.bufferRemaining then
        let (bytes, source) := source.readBuffered len
        some (some bytes, source)
      else if source.bufferFill = 0 then some (some [], source)
      else
        match provider.seekSet source.dataProvider (toUInt64 source.offset) with
        | (.error _, dataProvider) => some (none, { source with dataProvider })
        | (.ok _, dataProvider) =>
            match provider.read dataProvider source.bufferFill with
            | (.error _, dataProvider) => some (none, { source with dataProvider })
            | (.ok bytes, dataProvider) =>
                read provider fuel
                  { source with
                    dataProvider
                    buffer := bytes ++ source.buffer.drop bytes.length
                    bufferRemaining := bytes.length
                    offsetInBuffer := 0 } len

def setOffset (source : BufferedZipSource State) (newOffset : Int) :
    Bool × BufferedZipSource State :=
  if source.offset ≤ newOffset ∧
      toUInt64 newOffset < toUInt64 (source.offset + source.bufferRemaining) then
    (true,
      { source with
        offsetInBuffer := toUInt64 (source.offsetInBuffer + (newOffset - source.offset))
        bufferRemaining := toUInt64 (source.bufferRemaining - (newOffset - source.offset))
        offset := newOffset })
  else (true, { source with bufferRemaining := 0, offset := newOffset })

/-- The callbacks of the source, with a bound on the depth of the recursion of
`Read`. -/
def callbacks (provider : ReaderSeeker State) (fuel : Nat) :
    SeekableZipSourceCallback (BufferedZipSource State) where
  close := close
  open_ := open_ provider
  read := read provider fuel
  size := BufferedZipSource.size
  setOffset := setOffset
  offset := BufferedZipSource.offset

/-! ## The buffer holds the content from the offset on -/

structure At (serves : Serves provider content) (source : BufferedZipSource State)
    (position : Nat) : Prop where
  valid : serves.Valid source.dataProvider
  size : source.size = content.length
  bufferSize : source.buffer.length ≤ vectorMaxSize
  offset : source.offset = position
  within : position ≤ content.length
  held : source.offsetInBuffer + source.bufferRemaining ≤ source.buffer.length
  buffered : source.buffer.readAt source.offsetInBuffer source.bufferRemaining =
    content.readAt position source.bufferRemaining

variable {serves : Serves provider content} {source : BufferedZipSource State} {position : Nat}

theorem At.remaining (here : At serves source position) :
    position + source.bufferRemaining ≤ content.length := by
  have lengths := congrArg List.length here.buffered
  rw [Bytes.readAt_length, Bytes.readAt_length] at lengths
  have held := here.held
  have within := here.within
  omega

theorem At.emptied (here : At serves source position) {dataProvider : State}
    (valid : serves.Valid dataProvider) {offset : Int} {offsetInBuffer other : Nat}
    (isOffset : offset = other) (inBuffer : offsetInBuffer ≤ source.buffer.length)
    (within : other ≤ content.length) :
    At serves { source with dataProvider, offset, offsetInBuffer, bufferRemaining := 0 }
      other where
  valid := valid
  size := here.size
  bufferSize := here.bufferSize
  offset := isOffset
  within := within
  held := inBuffer
  buffered := by simp [Bytes.readAt]

theorem At.skip (here : At serves source position) {count : Nat}
    (inBuffer : count ≤ source.bufferRemaining) :
    At serves { source with
      offset := source.offset + count
      offsetInBuffer := source.offsetInBuffer + count
      bufferRemaining := source.bufferRemaining - count } (position + count) where
  valid := here.valid
  size := here.size
  bufferSize := here.bufferSize
  offset := by simp [here.offset]
  within := by
    have remaining := here.remaining
    omega
  held := by
    have held := here.held
    dsimp only
    omega
  buffered := by
    have skipped := congrArg (List.drop count) here.buffered
    simp only [Bytes.readAt, List.drop_take, List.drop_drop] at skipped
    simpa only [Bytes.readAt] using skipped

/-! ## Reading -/

theorem At.toUInt64_offset (here : At serves source position)
    (fits : content.length ≤ Fs.maxFileSize) : toUInt64 source.offset = position := by
  have within := here.within
  rw [Fs.maxFileSize] at fits
  rw [here.offset, toUInt64_of_nonneg (by omega) (by omega)]
  rfl

theorem At.bufferFill_eq (here : At serves source position)
    (fits : content.length ≤ Fs.maxFileSize) :
    source.bufferFill = min source.buffer.length (content.length - position) := by
  have within := here.within
  have bufferSize := here.bufferSize
  rw [Fs.maxFileSize] at fits
  rw [vectorMaxSize] at bufferSize
  have total : toUInt64 (source.offset + source.buffer.length) =
      position + source.buffer.length := by
    rw [here.offset, toUInt64_of_nonneg (by omega) (by omega)]
    omega
  have left : toUInt64 (source.size - source.offset) = content.length - position := by
    rw [here.offset, here.size, toUInt64_of_nonneg (by omega) (by omega)]
    omega
  rw [bufferFill]
  rw [total, left, here.size]
  split <;> omega

theorem readBypass_reads (here : At serves source position)
    (fits : content.length ≤ Fs.maxFileSize) (len : Nat) :
    ∃ bytes next, readBypass provider source len = (some bytes, next) ∧
      ReadsFrom content position len bytes ∧ At serves next (position + bytes.length) := by
  have start := here.toUInt64_offset fits
  rcases serves.seekSet source.dataProvider position here.valid here.within with
    ⟨sought, seeks, validSought, atPosition⟩
  rcases serves.read sought len validSought with ⟨bytes, next, answered, reads, validNext, -⟩
  rw [atPosition] at reads
  have inBuffer : source.offsetInBuffer ≤ source.buffer.length :=
    Nat.le_trans (Nat.le_add_right _ _) here.held
  have isOffset : source.offset + bytes.length = (position + bytes.length : Nat) := by
    rw [here.offset]
    rfl
  refine ⟨bytes, _, ?_, reads,
    here.emptied validNext isOffset inBuffer (reads.within here.within)⟩
  simp only [readBypass, start, seeks, answered]

theorem readBuffered_reads (here : At serves source position)
    (some_ : 0 < source.bufferRemaining) (len : Nat) :
    ReadsFrom content position len (source.readBuffered len).1 ∧
      At serves (source.readBuffered len).2
        (position + (source.readBuffered len).1.length) := by
  have held := here.held
  have remaining := here.remaining
  have isSlice : source.buffer.readAt source.offsetInBuffer (min len source.bufferRemaining) =
      content.readAt position (min len source.bufferRemaining) := by
    have part := congrArg (List.take (min len source.bufferRemaining)) here.buffered
    simp only [Bytes.readAt, List.take_take, Nat.min_eq_left (Nat.min_le_right _ _)] at part
    exact part
  have length : (source.readBuffered len).1.length = min len source.bufferRemaining := by
    rw [readBuffered, Bytes.readAt_length]
    omega
  constructor
  · refine ⟨by rw [length]; exact isSlice, by omega, ?_⟩
    intro empty
    rw [empty, List.length_nil] at length
    omega
  · rw [length]
    exact here.skip (Nat.min_le_right _ _)

theorem At.filled (here : At serves source position) {bytes : Bytes} {count : Nat}
    (reads : ReadsFrom content position count bytes) (fitsBuffer : count ≤ source.buffer.length)
    {dataProvider : State} (valid : serves.Valid dataProvider) :
    At serves { source with
      dataProvider
      buffer := bytes ++ source.buffer.drop bytes.length
      bufferRemaining := bytes.length
      offsetInBuffer := 0 } position where
  valid := valid
  size := here.size
  bufferSize := by
    have bufferSize := here.bufferSize
    have shorter := reads.length_le
    simp only [List.length_append, List.length_drop]
    omega
  offset := here.offset
  within := here.within
  held := by simp
  buffered := by
    rw [Bytes.readAt_zero_length]
    exact reads.isSlice

theorem read_reads (here : At serves source position) (fits : content.length ≤ Fs.maxFileSize)
    (fuel len : Nat) :
    ∃ bytes next, read provider (fuel + 2) source len = some (some bytes, next) ∧
      ReadsFrom content position len bytes ∧ At serves next (position + bytes.length) := by
  rw [read]
  by_cases large : source.buffer.length < len
  · rcases readBypass_reads here fits len with ⟨bytes, next, answered, reads, after⟩
    exact ⟨bytes, next, by simp only [large, if_true, answered], reads, after⟩
  simp only [large, if_false]
  by_cases remaining : 0 < source.bufferRemaining
  · rcases readBuffered_reads here remaining len with ⟨reads, after⟩
    exact ⟨_, _, by simp only [remaining, if_true], reads, after⟩
  simp only [remaining, if_false]
  have fill := here.bufferFill_eq fits
  by_cases nothing : source.bufferFill = 0
  · refine ⟨[], source, by simp only [nothing, if_true], ?_, by simpa using here⟩
    refine ⟨by simp [Bytes.readAt], by simp, ?_⟩
    intro _
    omega
  simp only [nothing, if_false, here.toUInt64_offset fits]
  rcases serves.seekSet source.dataProvider position here.valid here.within with
    ⟨sought, seeks, validSought, atPosition⟩
  rcases serves.read sought source.bufferFill validSought with
    ⟨bytes, next, answered, reads, validNext, -⟩
  rw [atPosition] at reads
  simp only [seeks, answered]
  have filled := here.filled reads (by omega) validNext
  have someFilled : 0 < bytes.length := by
    rw [List.length_pos_iff]
    intro empty
    rcases reads.eq_nil empty with none | atEnd
    · exact nothing none
    · omega
  have sameSize : (bytes ++ source.buffer.drop bytes.length).length = source.buffer.length := by
    have shorter := reads.length_le
    simp only [List.length_append, List.length_drop]
    omega
  rcases readBuffered_reads filled someFilled len with ⟨readsBuffered, after⟩
  refine ⟨_, _, ?_, readsBuffered, after⟩
  rw [read]
  simp only [sameSize, large, someFilled, if_true, if_false]

/-! ## Runs -/

theorem setOffset_moves (here : At serves source position)
    (fits : content.length ≤ Fs.maxFileSize) {newOffset : Nat}
    (within : newOffset ≤ content.length) :
    ∃ next, source.setOffset newOffset = (true, next) ∧ At serves next newOffset := by
  have held := here.held
  have remaining := here.remaining
  have bufferSize := here.bufferSize
  rw [Fs.maxFileSize] at fits
  rw [vectorMaxSize] at bufferSize
  have sum : toUInt64 (source.offset + source.bufferRemaining) =
      position + source.bufferRemaining := by
    rw [here.offset, toUInt64_of_nonneg (by omega) (by omega)]
    omega
  have new : toUInt64 newOffset = newOffset := by
    rw [toUInt64_of_nonneg (by omega) (by omega)]
    rfl
  rw [setOffset]
  rw [sum, new]
  split
  · rename_i inBuffer
    have forward : position ≤ newOffset := by
      have less := inBuffer.1
      rw [here.offset] at less
      omega
    have inside : newOffset - position ≤ source.bufferRemaining := by omega
    have skipped := here.skip inside
    refine ⟨_, rfl, ?_⟩
    have isOffset : source.offset + (newOffset - position : Nat) = newOffset := by
      rw [here.offset]
      omega
    have inBufferOffset :
        toUInt64 (source.offsetInBuffer + ((newOffset : Int) - source.offset)) =
          source.offsetInBuffer + (newOffset - position) := by
      rw [here.offset, toUInt64_of_nonneg (by omega) (by omega)]
      omega
    have stillRemaining :
        toUInt64 (source.bufferRemaining - ((newOffset : Int) - source.offset)) =
          source.bufferRemaining - (newOffset - position) := by
      rw [here.offset, toUInt64_of_nonneg (by omega) (by omega)]
      omega
    rw [inBufferOffset, stillRemaining, ← isOffset]
    have isNew : position + (newOffset - position) = newOffset := by omega
    rw [isNew] at skipped
    exact skipped
  · exact ⟨_, rfl, here.emptied here.valid rfl (by omega) within⟩

theorem simulates (serves : Serves provider content) (fits : content.length ≤ Fs.maxFileSize)
    (fuel : Nat) :
    Refinement.Simulates (SourceCall.make (callbacks provider (fuel + 2)))
      (fun position call => FileCursor content position call.meaning)
      (fun call => call.meaning.Within content) (At serves) := by
  intro source position call here within
  cases call with
  | open_ =>
      rcases serves.seekSet source.dataProvider 0 here.valid (Nat.zero_le _) with
        ⟨next, seeks, validNext, -⟩
      refine ⟨.done, _, 0, ?_, .rewind position,
        here.emptied validNext rfl (Nat.zero_le _) (Nat.zero_le _)⟩
      simp only [SourceCall.make, callbacks, open_, seeks]
      rfl
  | close =>
      exact ⟨.done, _, 0, rfl, .rewind position,
        here.emptied here.valid rfl (Nat.zero_le _) (Nat.zero_le _)⟩
  | setOffset newOffset =>
      rcases setOffset_moves here fits within with ⟨next, sets, after⟩
      refine ⟨.moved newOffset, next, newOffset, ?_, .seekSet position newOffset, after⟩
      simp only [SourceCall.make, callbacks, sets, after.offset]
      rfl
  | read len =>
      rcases read_reads here fits fuel len with ⟨bytes, next, answered, reads, after⟩
      refine ⟨.bytes bytes, next, _, ?_, .read reads, after⟩
      simp only [SourceCall.make, callbacks, answered]

theorem create_at (serves : Serves provider content) {dataProvider : State}
    (valid : serves.Valid dataProvider) {bufferSize : Nat}
    (allocates : bufferSize ≤ vectorMaxSize) :
    ∃ source, create provider dataProvider bufferSize = .ok source ∧ At serves source 0 := by
  rcases serves.length valid with ⟨next, measured, validNext, -⟩
  refine ⟨{ dataProvider := next, buffer := Bytes.zeros bufferSize, size := content.length,
            offset := 0, offsetInBuffer := 0, bufferRemaining := 0 }, ?_,
    ⟨validNext, rfl, ?_, rfl, Nat.zero_le _, ?_, ?_⟩⟩
  · rw [create, if_neg (by omega), measured]
  · simpa using allocates
  · simp
  · simp [Bytes.readAt]

/-- A buffered source is a cursor over the content of its data provider: every run
of calls within the content is answered, every read returns bytes of the content
from the offset on, and the offset it reports has moved by their number. -/
theorem buffered_source_refines_content (serves : Serves provider content)
    (fits : content.length ≤ Fs.maxFileSize) {dataProvider : State}
    (valid : serves.Valid dataProvider) {bufferSize : Nat}
    (allocates : bufferSize ≤ vectorMaxSize) {fuel : Nat} (deep : 2 ≤ fuel) :
    ∃ source, create provider dataProvider bufferSize = .ok source ∧
      ∀ calls : List SourceCall, (∀ call ∈ calls, call.meaning.Within content) →
        ∃ answers final position,
          Refinement.perform (SourceCall.make (callbacks provider fuel)) source calls =
              some (answers, final) ∧
            Refinement.PermitsAll
              (fun position call => FileCursor content position call.meaning) 0 calls answers
              position ∧
            (callbacks provider fuel).offset final = position := by
  rcases create_at serves valid allocates with ⟨source, created, start⟩
  refine ⟨source, created, ?_⟩
  intro calls within
  have depth : fuel = fuel - 2 + 2 := by omega
  rw [depth]
  rcases (simulates serves fits (fuel - 2)).perform within start with
    ⟨answers, final, position, performed, permitted, after⟩
  exact ⟨answers, final, position, performed, permitted, after.offset⟩

theorem buffered_source_refines_content_in_memory :
    ∃ source, create InMemoryIo.reader (.ofData [1, 2, 3]) 2 = .ok source ∧
      ∃ answers final position,
        Refinement.perform (SourceCall.make (callbacks InMemoryIo.reader 2)) source
            [.read 1, .setOffset 1, .read 3] = some (answers, final) ∧
          Refinement.PermitsAll
            (fun position call => FileCursor [1, 2, 3] position call.meaning) 0
            [SourceCall.read 1, .setOffset 1, .read 3] answers position ∧
          final.offset = position := by
  have valid : (InMemoryIo.serves [1, 2, 3]).Valid (.ofData [1, 2, 3]) := ⟨rfl, by decide⟩
  have allocates : 2 ≤ vectorMaxSize := by decide
  have deep : 2 ≤ 2 := Nat.le_refl 2
  rcases buffered_source_refines_content (InMemoryIo.serves [1, 2, 3]) (by decide) valid
    allocates deep with ⟨source, created, runs⟩
  refine ⟨source, created, runs [.read 1, .setOffset 1, .read 3] ?_⟩
  intro call member
  simp only [List.mem_cons, List.not_mem_nil, or_false] at member
  rcases member with isCall | isCall | isCall
  all_goals simp [isCall, SourceCall.meaning, FileCall.Within]

end BufferedZipSource

end Cuttlefish.Zip
