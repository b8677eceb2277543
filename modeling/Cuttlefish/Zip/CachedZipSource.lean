import Cuttlefish.Io.LazilyLoadedFile
import Cuttlefish.Zip.SeekableSource

/-! # Cached zip sources

`CachedZipSourceCallbacks`: a zip source over a lazily loaded file. -/

namespace Cuttlefish.Zip

open Io
open LazilyLoadedFile (MetadataIo.Opens parseMetadata sampleContentsIo sampleMetadataIo)

variable {State : Type} {reader : ReaderSeeker State} {content : Bytes}

/-- `CachedZipSourceCallbacks`. -/
structure CachedZipSource (State : Type) where
  source : LazilyLoadedFile State
  offset : Nat
  size : Nat

namespace CachedZipSource

/-- The file is sought first; an error of the file is -1. -/
def read (reader : ReaderSeeker State) (io : ContentsIo) (source : CachedZipSource State)
    (len : Nat) : Option (Option Bytes × CachedZipSource State) :=
  match (source.source.seek source.offset).read reader io len with
  | (.ok bytes, file) =>
      some (some bytes, { source with source := file, offset := source.offset + bytes.length })
  | (.error (.err _), file) => some (none, { source with source := file })
  | (.error (.abort _), _) => none

/-- The offset is kept as `size_t` and reported as `int64_t`. -/
def callbacks (reader : ReaderSeeker State) (io : ContentsIo) :
    SeekableZipSourceCallback (CachedZipSource State) where
  close source := (true, { source with offset := 0 })
  open_ source := (true, { source with offset := 0 })
  read := read reader io
  size := size
  setOffset source offset := (true, { source with offset := toUInt64 offset })
  offset source := toInt64 source.offset

/-! ## A cached source is a cursor -/

structure At (codec : MessageCodec DisjointRangeList) (serves : Serves reader content)
    (source : CachedZipSource State) (position : Nat) : Prop where
  file : ∃ other, LazilyLoadedFile.At codec serves source.source other
  offset : source.offset = position
  within : position ≤ content.length

variable {codec : MessageCodec DisjointRangeList} {serves : Serves reader content}
  {source : CachedZipSource State} {position : Nat}

theorem At.moved (here : At codec serves source position) {offset other : Nat}
    (isOffset : offset = other) (within : other ≤ content.length) :
    At codec serves { source with offset } other where
  file := here.file
  offset := isOffset
  within := within

theorem read_reads (here : At codec serves source position)
    (fits : content.length ≤ Fs.maxFileSize) {io : ContentsIo} (reliable : io.Reliable)
    (len : Nat) :
    ∃ bytes next, read reader io source len = some (some bytes, next) ∧
      ReadsFrom content position len bytes ∧
      At codec serves next (position + bytes.length) := by
  rcases here.file with ⟨other, atOther⟩
  have sought := atOther.moved source.source.contentsFile rfl here.within
  rcases LazilyLoadedFile.read_reads sought fits io len with
    ⟨bytes, file, answered, reads, after⟩ | ⟨message, file, -, unreliable, -⟩
  · refine ⟨bytes, { source with source := file, offset := source.offset + bytes.length },
      ?_, reads, ⟨_, after⟩, by rw [here.offset], reads.within here.within⟩
    simp only [read, LazilyLoadedFile.seek, here.offset, answered]
  · exact absurd reliable unreliable

theorem simulates (codec : MessageCodec DisjointRangeList) (serves : Serves reader content)
    (fits : content.length ≤ Fs.maxFileSize) {io : ContentsIo} (reliable : io.Reliable) :
    Refinement.Simulates (SourceCall.make (callbacks reader io))
      (fun position call => FileCursor content position call.meaning)
      (fun call => call.meaning.Within content) (At codec serves) := by
  intro source position call here within
  cases call with
  | open_ => exact ⟨.done, _, 0, rfl, .rewind position, here.moved rfl (Nat.zero_le _)⟩
  | close => exact ⟨.done, _, 0, rfl, .rewind position, here.moved rfl (Nat.zero_le _)⟩
  | setOffset offset =>
      have bound : offset ≤ content.length := within
      rw [Fs.maxFileSize] at fits
      have stored : toUInt64 (offset : Int) = offset := by
        rw [toUInt64_of_nonneg (by omega) (by omega)]
        rfl
      have reported : (toInt64 offset).toNat = offset := by
        rw [toInt64, if_pos (by omega)]
        rfl
      refine ⟨.moved offset, _, offset, ?_, .seekSet position offset, here.moved stored within⟩
      simp only [SourceCall.make, callbacks, stored, reported]
  | read len =>
      rcases read_reads here fits reliable len with ⟨bytes, next, answered, reads, after⟩
      refine ⟨.bytes bytes, next, _, ?_, .read reads, after⟩
      simp only [SourceCall.make, callbacks, answered]

/-- A cached source is a cursor over the content of the source it caches, as long as the local file
does not fail. An earlier run may have cached a part of the content. -/
theorem cached_source_refines_content (serves : Serves reader content)
    (fits : content.length ≤ Fs.maxFileSize) {contents metadataFile : Bytes}
    (saved : ∃ set, parseMetadata codec metadataFile = .ok set ∧
      LazilyLoadedFile.Holds content contents set)
    {metadataIo : MetadataIo} (opens : MetadataIo.Opens metadataIo)
    {callback : State} (valid : serves.Valid callback) {io : ContentsIo} (reliable : io.Reliable) :
    ∃ file, LazilyLoadedFile.create codec metadataIo contents metadataFile content.length callback =
        .ok file ∧
      ∀ calls : List SourceCall, (∀ call ∈ calls, call.meaning.Within content) →
        ∃ answers final position,
          Refinement.perform (SourceCall.make (callbacks reader io)) ⟨file, 0, content.length⟩
              calls = some (answers, final) ∧
            Refinement.PermitsAll
              (fun position call => FileCursor content position call.meaning) 0 calls answers
              position ∧
            (callbacks reader io).offset final = position := by
  rcases LazilyLoadedFile.create_at saved opens valid with ⟨file, created, atStart⟩
  refine ⟨file, created, ?_⟩
  intro calls within
  have start : At codec serves ⟨file, 0, content.length⟩ 0 := ⟨⟨0, atStart⟩, rfl, Nat.zero_le _⟩
  rcases (simulates codec serves fits reliable).perform within start with
    ⟨answers, final, position, performed, permitted, after⟩
  refine ⟨answers, final, position, performed, permitted, ?_⟩
  have bound := after.within
  rw [Fs.maxFileSize] at fits
  simp only [callbacks]
  rw [after.offset, toInt64, if_pos (by omega)]

theorem cached_source_refines_content_in_memory :
    ∃ file, LazilyLoadedFile.create DisjointRangeList.wire sampleMetadataIo [] [] 3
        (InMemoryIo.ofData [1, 2, 3]) = .ok file ∧
      ∃ answers final position,
        Refinement.perform (SourceCall.make (callbacks InMemoryIo.reader sampleContentsIo))
            ⟨file, 0, 3⟩ [.setOffset 1, .read 3] = some (answers, final) ∧
        Refinement.PermitsAll
          (fun position call => FileCursor [1, 2, 3] position call.meaning) 0
          [SourceCall.setOffset 1, .read 3] answers position ∧
        (callbacks InMemoryIo.reader sampleContentsIo).offset final = position := by
  have valid : (InMemoryIo.serves [1, 2, 3]).Valid (.ofData [1, 2, 3]) := ⟨rfl, by decide⟩
  have opens : MetadataIo.Opens sampleMetadataIo :=
    ⟨rfl, Fs.succeeds_upTo 1⟩
  have reliable : sampleContentsIo.Reliable :=
    ⟨rfl, by simp [sampleContentsIo], Fs.progresses_upTo Nat.one_pos⟩
  have fresh : parseMetadata DisjointRangeList.wire [] = .ok .empty := by
    simp only [parseMetadata, DisjointRangeSet.deserialize,
      DisjointRangeList.wire_lawful.parses_empty, DisjointRangeSet.insertRanges]
  rcases cached_source_refines_content (InMemoryIo.serves [1, 2, 3]) (by decide)
    ⟨.empty, fresh, .empty _ []⟩ opens valid reliable with ⟨file, created, runs⟩
  refine ⟨file, created, runs [.setOffset 1, .read 3] ?_⟩
  intro call member
  simp only [List.mem_cons, List.not_mem_nil, or_false] at member
  rcases member with isCall | isCall
  all_goals simp [isCall, SourceCall.meaning, FileCall.Within]

end CachedZipSource

end Cuttlefish.Zip
