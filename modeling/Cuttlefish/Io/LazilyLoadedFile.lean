import Cuttlefish.Foundation.MachineInt
import Cuttlefish.Fs.FileSystem
import Cuttlefish.Io.FileCursor
import Cuttlefish.Io.InMemory
import Cuttlefish.Io.SerializeDisjointRangeSet

/-! # Files that are loaded when they are read

`LazilyLoadedFile` of `io/lazily_loaded_file.cc`: what was read from a source is
kept in a local file, and a second file next to it says which bytes are there. The
local files may fail; what the system calls on them do is chosen anew for every
call. -/

namespace Cuttlefish.Io

open Fs

variable {State : Type}

/-- `LazilyLoadedFile::Impl`, with the contents of the two local files and the state
of the source. The buffer for extended reads is written before it is read. -/
structure LazilyLoadedFile (State : Type) where
  contentsFile : OpenFile
  metadataFile : Bytes
  callback : State
  alreadyDownloaded : DisjointRangeSet
  seekPos : Nat
  size : Nat

/-- What the system calls of one `Read` do. A contents file that could not be opened
fails every seek. -/
structure ContentsIo where
  seeks : Bool
  read : Transfer
  writes : Nat → Transfer

/-- No system call fails, and all of them transfer something. -/
structure ContentsIo.Reliable (io : ContentsIo) : Prop where
  seeks : io.seeks = true
  reads : io.read ≠ .error
  writes : Progresses io.writes

/-- What the system calls do when the file is destroyed and created again. -/
structure MetadataIo where
  createsTemporary : Bool
  writes : Nat → Transfer
  renames : Bool
  opens : Bool
  reads : Nat → Transfer

namespace LazilyLoadedFile

def minReadSize : Nat := 67108864

/-- What `ReadMetadata` makes of the content of the file. Fragments that do not parse
are ignored. -/
def parseMetadata (codec : MessageCodec DisjointRangeList) (data : Bytes) :
    Result DisjointRangeSet :=
  match DisjointRangeSet.deserialize codec data with
  | .ok parsed => .ok parsed
  | .error (.err _) => .ok .empty
  | .error (.abort message) => .error (.abort message)

def readMetadata (codec : MessageCodec DisjointRangeList) (io : MetadataIo)
    (metadataFile : Bytes) : Result DisjointRangeSet := do
  cfExpect io.opens "Failed to open"
  match readAll io.reads metadataFile with
  | none => .error (.err "ReadAll(metadata_fd, &data)")
  | some data => parseMetadata codec data

/-- `Create` over the two files as they are on disk; new ones are empty. -/
def create (codec : MessageCodec DisjointRangeList) (io : MetadataIo)
    (contents metadataFile : Bytes) (size : Nat) (callback : State) :
    Result (LazilyLoadedFile State) := do
  let alreadyDownloaded ← readMetadata codec io metadataFile
  return { contentsFile := ⟨contents, 0⟩, metadataFile, callback, alreadyDownloaded,
           seekPos := 0, size }

def writeMetadata (codec : MessageCodec DisjointRangeList) (io : MetadataIo)
    (file : LazilyLoadedFile State) : Result Bytes := do
  cfExpect io.createsTemporary "new_metadata"
  let data := file.alreadyDownloaded.serialize codec
  let (written, newMetadata) := writeAll io.writes data ⟨[], 0⟩
  cfExpect (written = data.length) "WriteAll(new_metadata, data)"
  cfExpect io.renames "RenameFile(new_metadata_name, MetadataFile())"
  return newMetadata.content

/-- What the destructor leaves in the metadata file. -/
def destroy (codec : MessageCodec DisjointRangeList) (io : MetadataIo)
    (file : LazilyLoadedFile State) : Bytes :=
  match file.writeMetadata codec io with
  | .ok newMetadata => newMetadata
  | .error _ => file.metadataFile

def seek (file : LazilyLoadedFile State) (location : Nat) : LazilyLoadedFile State :=
  { file with seekPos := location }

/-- `contents_file_->LSeek(seek_pos_, SEEK_SET)`. -/
def lseek (io : ContentsIo) (file : LazilyLoadedFile State) : Int × LazilyLoadedFile State :=
  if io.seeks = true ∧ file.seekPos ≤ maxFileSize then
    (file.seekPos, { file with contentsFile := file.contentsFile.lseek file.seekPos })
  else (-1, file)

/-- The part of `Read` for data that is there. Before the end of a regular file a
successful `read(2)` returns something. -/
def readLocal (io : ContentsIo) (file : LazilyLoadedFile State) (endOfPresentData count : Nat) :
    Result Bytes × LazilyLoadedFile State :=
  let readRequest := min (toUInt64 (endOfPresentData - file.seekPos)) count
  match io.read with
  | .error => (.error (.err "contents_file_->Read(data, read_request)"), file)
  | .upTo transferred =>
      let data := file.contentsFile.content.readAt file.contentsFile.position
        (min (max 1 transferred) readRequest)
      (.ok data,
        { file with
          contentsFile := file.contentsFile.lseek (file.contentsFile.position + data.length)
          seekPos := file.seekPos + data.length })

/-- Read from the source and keep what it returned. -/
def download (reader : ReaderSeeker State) (io : ContentsIo) (file : LazilyLoadedFile State)
    (count : Nat) : Result Bytes × LazilyLoadedFile State :=
  match reader.read file.callback count with
  | (.error failure, callback) => (.error failure, { file with callback })
  | (.ok data, callback) =>
      let (written, contentsFile) := writeAll io.writes data file.contentsFile
      let file := { file with callback, contentsFile }
      if written ≠ data.length then (.error (.err "WriteAll(contents_file_)"), file)
      else
        match file.alreadyDownloaded.insertRange file.seekPos
            ((file.seekPos + data.length) % 18446744073709551616) with
        | .error failure => (.error failure, file)
        | .ok alreadyDownloaded => (.ok data, { file with alreadyDownloaded })

/-- The part of `Read` for data that is not there. A small request is extended. -/
def readRemote (reader : ReaderSeeker State) (io : ContentsIo) (file : LazilyLoadedFile State)
    (count : Nat) : Result Bytes × LazilyLoadedFile State :=
  match reader.seekSet file.callback file.seekPos with
  | (.error failure, callback) => (.error failure, { file with callback })
  | (.ok _, callback) =>
      let request :=
        if count < minReadSize then min minReadSize (toUInt64 (file.size - file.seekPos))
        else count
      match download reader io { file with callback } request with
      | (.error failure, file) => (.error failure, file)
      | (.ok data, file) =>
          let reported := if count < minReadSize then data.take count else data
          (.ok reported, { file with seekPos := file.seekPos + reported.length })

def read (reader : ReaderSeeker State) (io : ContentsIo) (file : LazilyLoadedFile State)
    (count : Nat) : Result Bytes × LazilyLoadedFile State :=
  let (position, file) := file.lseek io
  if toUInt64 position ≠ file.seekPos then
    (.error (.err "contents_file_->LSeek(seek_pos_, SEEK_SET)"), file)
  else
    match file.alreadyDownloaded.endOfContainingRange file.seekPos with
    | some endOfPresentData => file.readLocal io endOfPresentData count
    | none => file.readRemote reader io count

/-! ## The local file holds the bytes that were downloaded -/

/-- The numbers in the set are positions of the content, and the local file has the
bytes of the content there. -/
structure Holds (content local_ : Bytes) (set : DisjointRangeSet) : Prop where
  separated : DisjointRangeSet.Separated set.ranges
  within : ∀ range ∈ set.ranges, range.end_ ≤ content.length
  agrees : ∀ index, set.Covers index → local_[index]? = content[index]?

namespace Holds

variable {content local_ : Bytes} {set : DisjointRangeSet}

theorem empty (content local_ : Bytes) : Holds content local_ .empty where
  separated := ⟨by simp [DisjointRangeSet.empty], List.Pairwise.nil⟩
  within := by simp [DisjointRangeSet.empty]
  agrees index covered := by
    rcases covered with ⟨range, member, -⟩
    cases member

theorem lt_length (holds : Holds content local_ set) {index : Nat}
    (covered : set.Covers index) : index < content.length := by
  rcases covered with ⟨range, member, has⟩
  exact Nat.lt_of_lt_of_le has.2 (holds.within range member)

theorem lt_local (holds : Holds content local_ set) {index : Nat}
    (covered : set.Covers index) : index < local_.length := by
  have agrees := holds.agrees index covered
  rw [List.getElem?_eq_getElem (holds.lt_length covered)] at agrees
  exact (List.getElem?_eq_some_iff.mp agrees).choose

theorem getElem?_writeAt_slice (local_ : Bytes) {position index : Nat} {bytes : Bytes}
    (isSlice : bytes = content.readAt position bytes.length) (after : position ≤ index)
    (before : index < position + bytes.length) :
    (local_.writeAt position bytes)[index]? = content[index]? := by
  have place : position + (index - position) = index := by omega
  rw [Bytes.getElem?_writeAt_inside _ _ after before, isSlice, Bytes.readAt,
    List.getElem?_take_of_lt (by omega), List.getElem?_drop, place]

theorem write (holds : Holds content local_ set) {position : Nat} {bytes : Bytes}
    (isSlice : bytes = content.readAt position bytes.length) :
    Holds content (local_.writeAt position bytes) set where
  separated := holds.separated
  within := holds.within
  agrees index covered := by
    by_cases inside : position ≤ index ∧ index < position + bytes.length
    · exact getElem?_writeAt_slice local_ isSlice inside.1 inside.2
    · rw [Bytes.getElem?_writeAt_outside _ _ (by omega) (holds.lt_local covered)]
      exact holds.agrees index covered

theorem insert (holds : Holds content local_ set) {position : Nat} {bytes : Bytes}
    (isSlice : bytes = content.readAt position bytes.length)
    (within : position + bytes.length ≤ content.length) :
    Holds content (local_.writeAt position bytes)
      (set.insertChecked ⟨position, position + bytes.length⟩) := by
  have written := holds.write isSlice
  have ordered : position ≤ position + bytes.length := Nat.le_add_right _ _
  rcases DisjointRangeSet.insertChecked_spec holds.separated
    (show Range.start ⟨position, position + bytes.length⟩ ≤
      Range.end_ ⟨position, position + bytes.length⟩ from ordered) with ⟨separated, covers⟩
  refine ⟨separated, DisjointRangeSet.insertChecked_end_le holds.separated within
    holds.within, ?_⟩
  intro index covered
  rcases (covers index).mp covered with old | new
  · exact written.agrees index old
  · exact getElem?_writeAt_slice local_ isSlice new.1 new.2

end Holds

/-! ## One call -/

variable {reader : ReaderSeeker State} {content : Bytes}

/-- The file is at a position of the content, and both the downloaded ranges and those
in the metadata file are held by the local file. -/
structure At (codec : MessageCodec DisjointRangeList) (serves : Serves reader content)
    (file : LazilyLoadedFile State) (position : Nat) : Prop where
  valid : serves.Valid file.callback
  size : file.size = content.length
  seekPos : file.seekPos = position
  within : position ≤ content.length
  holds : Holds content file.contentsFile.content file.alreadyDownloaded
  saved : ∃ set, parseMetadata codec file.metadataFile = .ok set ∧
    Holds content file.contentsFile.content set

variable {codec : MessageCodec DisjointRangeList} {serves : Serves reader content}
  {file : LazilyLoadedFile State} {position : Nat}

theorem At.written (here : At codec serves file position) {bytes : Bytes} {start : Nat}
    (isSlice : bytes = content.readAt start bytes.length) {callback : State}
    (valid : serves.Valid callback) {contentsFile : OpenFile}
    (isWritten : contentsFile.content = file.contentsFile.content.writeAt start bytes) :
    At codec serves { file with callback, contentsFile } position where
  valid := valid
  size := here.size
  seekPos := here.seekPos
  within := here.within
  holds := isWritten ▸ here.holds.write isSlice
  saved := by
    rcases here.saved with ⟨set, parsed, holds⟩
    exact ⟨set, parsed, isWritten ▸ holds.write isSlice⟩

theorem At.moved (here : At codec serves file position) (contentsFile : OpenFile)
    (same : contentsFile.content = file.contentsFile.content) {other : Nat}
    (within : other ≤ content.length) :
    At codec serves { file with contentsFile, seekPos := other } other where
  valid := here.valid
  size := here.size
  seekPos := rfl
  within := within
  holds := same ▸ here.holds
  saved := same ▸ here.saved

/-- What a call returns, and where it leaves the file, when the calls on the local file
may fail. -/
def Reads (codec : MessageCodec DisjointRangeList) (serves : Serves reader content)
    (position count : Nat) (io : ContentsIo)
    (outcome : Result Bytes × LazilyLoadedFile State) : Prop :=
  (∃ bytes next, outcome = (.ok bytes, next) ∧ ReadsFrom content position count bytes ∧
      At codec serves next (position + bytes.length)) ∨
    (∃ message next, outcome = (.error (.err message), next) ∧ ¬ io.Reliable ∧
      At codec serves next position)

theorem readLocal_reads (here : At codec serves file position)
    (fits : content.length ≤ maxFileSize) (sought : file.contentsFile.position = position)
    {endOfPresentData : Nat}
    (found : file.alreadyDownloaded.endOfContainingRange file.seekPos = some endOfPresentData)
    (io : ContentsIo) (count : Nat) :
    Reads codec serves position count io (file.readLocal io endOfPresentData count) := by
  have within := here.within
  rw [maxFileSize] at fits
  rw [here.seekPos] at found
  rcases DisjointRangeSet.endOfContainingRange_eq_some here.holds.separated (by omega) found
    with ⟨range, member, has, isEnd⟩
  have rangeWithin := here.holds.within range member
  have bounds := has
  rw [Range.Has] at bounds
  have request : toUInt64 ((endOfPresentData : Int) - file.seekPos) =
      endOfPresentData - position := by
    rw [here.seekPos, toUInt64_of_nonneg (by omega) (by omega)]
    omega
  rw [readLocal]
  rw [request, sought]
  cases transfer : io.read with
  | error =>
      exact .inr ⟨_, _, rfl, fun reliable => reliable.reads transfer, here⟩
  | upTo transferred =>
      left
      dsimp only
      -- Everything in the range is in the local file.
      generalize isRead : min (max 1 transferred) (min (endOfPresentData - position) count) =
        amount
      have same : file.contentsFile.content.readAt position amount =
          content.readAt position amount := by
        apply Bytes.readAt_congr
        intro index after before
        exact here.holds.agrees index ⟨range, member, by omega, by omega⟩
      have length : (content.readAt position amount).length = amount := by
        rw [Bytes.readAt_length]
        omega
      refine ⟨_, _, rfl, ?_, ?_⟩
      · rw [same]
        refine ⟨by rw [length], by omega, ?_⟩
        intro isEmpty
        rw [isEmpty, List.length_nil] at length
        omega
      · have bound : position + amount ≤ content.length := by omega
        rw [same, length, here.seekPos]
        exact here.moved (file.contentsFile.lseek (position + amount)) rfl bound

theorem download_reads (here : At codec serves file position)
    (fits : content.length ≤ maxFileSize) (sought : file.contentsFile.position = position)
    (atPosition : serves.position file.callback = position) (io : ContentsIo) (count : Nat) :
    (∃ bytes next, download reader io file count = (.ok bytes, next) ∧
        ReadsFrom content position count bytes ∧ At codec serves next position) ∨
      (∃ message next, download reader io file count = (.error (.err message), next) ∧
        ¬ io.Reliable ∧ At codec serves next position) := by
  rcases serves.read file.callback count here.valid with
    ⟨bytes, callback, answered, reads, valid, -⟩
  rw [atPosition] at reads
  have within := reads.within here.within
  have sum : (file.seekPos + bytes.length) % 18446744073709551616 =
      position + bytes.length := by
    rw [maxFileSize] at fits
    rw [here.seekPos]
    exact Nat.mod_eq_of_lt (by omega)
  simp only [download, answered, writeAll_eq, sum]
  by_cases complete : (accepted io.writes bytes.length).1 = bytes.length
  · left
    have whole : bytes.take (accepted io.writes bytes.length).2 = bytes := by
      rw [accepted_all complete, List.take_length]
    have isWritten : (file.contentsFile.write bytes).content =
        file.contentsFile.content.writeAt position bytes := by
      rw [OpenFile.write, sought]
    have after := here.written reads.isSlice valid isWritten
    have inserted := here.holds.insert reads.isSlice within
    rw [← isWritten] at inserted
    simp only [complete, whole, ne_eq, not_true_eq_false, if_false,
      DisjointRangeSet.insertRange, DisjointRangeSet.checkRange, here.seekPos,
      Nat.le_add_right, if_true]
    exact ⟨bytes, _, rfl, reads, after.valid, after.size, rfl, after.within, inserted,
      after.saved⟩
  · right
    -- Some of the bytes may have been written before the failure.
    have slice := Bytes.take_eq_readAt reads.isSlice (accepted io.writes bytes.length).2
    have isWritten :
        (file.contentsFile.write (bytes.take (accepted io.writes bytes.length).2)).content =
          file.contentsFile.content.writeAt position
            (bytes.take (accepted io.writes bytes.length).2) := by
      rw [OpenFile.write, sought]
    have after := here.written slice valid isWritten
    simp only [complete, ne_eq, not_false_eq_true, if_true]
    refine ⟨_, _, rfl, ?_, after⟩
    intro reliable
    exact complete (congrArg Prod.fst (accepted_complete reliable.writes bytes.length))

theorem readRemote_reads (here : At codec serves file position)
    (fits : content.length ≤ maxFileSize) (sought : file.contentsFile.position = position)
    (io : ContentsIo) (count : Nat) :
    Reads codec serves position count io (file.readRemote reader io count) := by
  have isPosition := here.seekPos
  subst isPosition
  have within := here.within
  rcases serves.seekSet file.callback file.seekPos here.valid within with
    ⟨callback, seeks, valid, atPosition⟩
  have remaining : toUInt64 ((file.size : Int) - file.seekPos) =
      content.length - file.seekPos := by
    rw [maxFileSize] at fits
    rw [here.size, toUInt64_of_nonneg (by omega) (by omega)]
    omega
  have started : At codec serves { file with callback } file.seekPos := { here with valid }
  simp only [readRemote, seeks, remaining]
  generalize isRequest :
    (if count < minReadSize then min minReadSize (content.length - file.seekPos) else count) =
      request
  rcases download_reads started fits sought atPosition io request with
    ⟨bytes, next, loaded, reads, after⟩ | ⟨message, next, failed, unreliable, after⟩
  · left
    have reported : ReadsFrom content file.seekPos count
        (if count < minReadSize then bytes.take count else bytes) := by
      by_cases small : count < minReadSize
      · rw [if_pos small] at isRequest ⊢
        apply reads.take
        rw [minReadSize] at isRequest
        omega
      · rw [if_neg small] at isRequest ⊢
        exact isRequest ▸ reads
    have bound := reported.within within
    simp only [loaded]
    refine ⟨_, _, rfl, reported, ?_⟩
    rw [after.seekPos]
    exact after.moved next.contentsFile rfl bound
  · right
    simp only [failed]
    exact ⟨message, next, rfl, unreliable, after⟩

theorem read_reads (here : At codec serves file position) (fits : content.length ≤ maxFileSize)
    (io : ContentsIo) (count : Nat) :
    Reads codec serves position count io (file.read reader io count) := by
  have isPosition := here.seekPos
  subst isPosition
  have within := here.within
  rw [read]
  by_cases seeks : io.seeks = true
  · have same : toUInt64 (file.seekPos : Int) = file.seekPos := by
      rw [maxFileSize] at fits
      rw [toUInt64_of_nonneg (by omega) (by omega)]
      rfl
    have sought := here.moved (file.contentsFile.lseek file.seekPos) rfl within
    rw [lseek, if_pos ⟨seeks, by omega⟩]
    simp only [same, ne_eq, not_true_eq_false, if_false]
    split
    · rename_i endOfPresentData found
      exact readLocal_reads sought fits rfl found io count
    · exact readRemote_reads sought fits rfl io count
  · have notSame : toUInt64 (-1) ≠ file.seekPos := by
      rw [maxFileSize] at fits
      rw [toUInt64]
      omega
    rw [lseek, if_neg (fun both => seeks both.1)]
    simp only [notSame, ne_eq, not_false_eq_true, if_true]
    exact .inr ⟨_, _, rfl, fun reliable => seeks reliable.seeks, here⟩

/-! ## Destroying and creating again -/

theorem parseMetadata_serialize (lawful : DisjointRangeList.Lawful codec)
    (fits : content.length ≤ maxFileSize) {local_ : Bytes} {set : DisjointRangeSet}
    (holds : Holds content local_ set) :
    ∃ parsed, parseMetadata codec (set.serialize codec) = .ok parsed ∧
      Holds content local_ parsed := by
  have ends : ∀ range ∈ set.ranges, range.end_ < 18446744073709551616 := by
    intro range member
    have bound := holds.within range member
    rw [maxFileSize] at fits
    omega
  rw [parseMetadata]
  rcases DisjointRangeSet.deserialize_serialize lawful holds.separated ends with
    restored | lost
  · exact ⟨set, by simp only [restored], holds⟩
  · exact ⟨.empty, by simp only [lost], .empty content local_⟩

theorem destroy_eq (codec : MessageCodec DisjointRangeList) (io : MetadataIo)
    (file : LazilyLoadedFile State) :
    file.destroy codec io = file.alreadyDownloaded.serialize codec ∨
      file.destroy codec io = file.metadataFile := by
  rw [destroy]
  cases saved : file.writeMetadata codec io with
  | error failure => exact .inr rfl
  | ok newMetadata =>
      left
      simp only [writeMetadata, Result.bind_eq_ok, cfExpect_eq_ok, decide_eq_true_eq,
        writeAll_eq] at saved
      rcases saved with ⟨_, -, _, complete, _, -, isContent⟩
      rw [accepted_all complete, List.take_length] at isContent
      cases isContent
      exact Bytes.writeAt_end [] _

theorem destroy_saves (lawful : DisjointRangeList.Lawful codec)
    (fits : content.length ≤ maxFileSize) (here : At codec serves file position)
    (io : MetadataIo) :
    ∃ set, parseMetadata codec (file.destroy codec io) = .ok set ∧
      Holds content file.contentsFile.content set := by
  rcases destroy_eq codec io file with written | kept
  · rw [written]
    exact parseMetadata_serialize lawful fits here.holds
  · rw [kept]
    exact here.saved

/-- The metadata file can be opened and read. -/
structure MetadataIo.Opens (io : MetadataIo) : Prop where
  opens : io.opens = true
  reads : Succeeds io.reads

theorem create_at {contents metadataFile : Bytes}
    (saved : ∃ set, parseMetadata codec metadataFile = .ok set ∧ Holds content contents set)
    {io : MetadataIo} (opens : MetadataIo.Opens io) {callback : State}
    (valid : serves.Valid callback) :
    ∃ file, create codec io contents metadataFile content.length callback = .ok file ∧
      At codec serves file 0 := by
  rcases saved with ⟨set, parsed, holds⟩
  have loaded := readAll_complete opens.reads metadataFile
  refine ⟨{ contentsFile := ⟨contents, 0⟩, metadataFile, callback, alreadyDownloaded := set,
            seekPos := 0, size := content.length }, ?_,
    ⟨valid, rfl, rfl, Nat.zero_le _, holds, ⟨set, parsed, holds⟩⟩⟩
  simp only [create, readMetadata, opens.opens, cfExpect_true, loaded]
  change parseMetadata codec metadataFile >>= _ = _
  rw [parsed]
  rfl

/-! ## Runs -/

/-- A call on the file. It may be destroyed and created again with a new source for
the same content. -/
inductive Call (State : Type)
  | seek (location : Nat)
  | read (io : ContentsIo) (count : Nat)
  | reopen (io : MetadataIo) (callback : State)

namespace Call

def meaning : Call State → FileCall
  | seek location => .seekSet location
  | read _ count => .read count
  | reopen _ _ => .rewind

/-- Make the call. A read that returns an error is answered with none. -/
def make (codec : MessageCodec DisjointRangeList) (reader : ReaderSeeker State)
    (file : LazilyLoadedFile State) :
    Call State → Option (Option FileAnswer × LazilyLoadedFile State)
  | seek location => some (some (.moved (file.seek location).seekPos), file.seek location)
  | read io count =>
      match file.read reader io count with
      | (.ok bytes, file) => some (some (.bytes bytes), file)
      | (.error (.err _), file) => some (none, file)
      | (.error (.abort _), _) => none
  | reopen io callback =>
      match create codec io file.contentsFile.content (file.destroy codec io) file.size
          callback with
      | .ok file => some (some .done, file)
      | .error _ => none

/-- Seeks stay within the content, and a file that is created again can be created. -/
def Allowed (serves : Serves reader content) : Call State → Prop
  | seek location => location ≤ content.length
  | read _ _ => True
  | reopen io callback => MetadataIo.Opens io ∧ serves.Valid callback

def MayFail : Call State → Prop
  | read io _ => ¬ io.Reliable
  | _ => False

end Call

/-- A cursor over the content whose reads fail only when the local file does. A failed
read does not move it. -/
inductive LocalCursor (content : Bytes) : Nat → Call State → Option FileAnswer → Nat → Prop
  | answered {position next : Nat} {call : Call State} {answer : FileAnswer}
      (permitted : FileCursor content position call.meaning answer next) :
      LocalCursor content position call (some answer) next
  | failed {position : Nat} {call : Call State} (mayFail : call.MayFail) :
      LocalCursor content position call none position

theorem simulates (lawful : DisjointRangeList.Lawful codec) (serves : Serves reader content)
    (fits : content.length ≤ maxFileSize) :
    Refinement.Simulates (Call.make codec reader) (LocalCursor content) (Call.Allowed serves)
      (At codec serves) := by
  intro file position call here allowed
  cases call with
  | seek location =>
      exact ⟨_, _, location, rfl, .answered (.seekSet position location),
        here.moved file.contentsFile rfl allowed⟩
  | read io count =>
      rcases read_reads here fits io count with
        ⟨bytes, next, answered, reads, after⟩ | ⟨message, next, failed, unreliable, after⟩
      · refine ⟨some (.bytes bytes), next, _, ?_, .answered (.read reads), after⟩
        simp only [Call.make, answered]
      · refine ⟨none, next, position, ?_, .failed unreliable, after⟩
        simp only [Call.make, failed]
  | reopen io callback =>
      rcases create_at (destroy_saves lawful fits here io) allowed.1 allowed.2 with
        ⟨next, created, after⟩
      refine ⟨some .done, next, 0, ?_, .answered (.rewind position), after⟩
      simp only [Call.make, here.size, created]

/-- A lazily loaded file is a cursor over the content of its source, also when it is
destroyed and created again, and at any time the bytes it has downloaded are in the
local file. -/
theorem lazily_loaded_file_refines_source (lawful : DisjointRangeList.Lawful codec)
    (serves : Serves reader content) (fits : content.length ≤ maxFileSize) {io : MetadataIo}
    (opens : MetadataIo.Opens io) (contents : Bytes) {callback : State}
    (valid : serves.Valid callback) :
    ∃ file, create codec io contents [] content.length callback = .ok file ∧
      ∀ calls : List (Call State), (∀ call ∈ calls, call.Allowed serves) →
        ∃ answers final position,
          Refinement.perform (Call.make codec reader) file calls = some (answers, final) ∧
            Refinement.PermitsAll (LocalCursor content) 0 calls answers position ∧
            final.seekPos = position ∧
            ∀ index, final.alreadyDownloaded.Covers index →
              index < content.length ∧
                final.contentsFile.content[index]? = content[index]? := by
  have fresh : parseMetadata codec [] = .ok .empty := by
    simp only [parseMetadata, DisjointRangeSet.deserialize, lawful.parses_empty,
      DisjointRangeSet.insertRanges]
  rcases create_at ⟨.empty, fresh, .empty content contents⟩ opens valid with
    ⟨file, created, start⟩
  refine ⟨file, created, ?_⟩
  intro calls allowed
  rcases (simulates lawful serves fits).perform allowed start with
    ⟨answers, final, position, performed, permitted, after⟩
  refine ⟨answers, final, position, performed, permitted, after.seekPos, ?_⟩
  intro index covered
  exact ⟨after.holds.lt_length covered, after.holds.agrees index covered⟩

/-- System calls that transfer one byte at a time. -/
def sampleContentsIo : ContentsIo where
  seeks := true
  read := .upTo 1
  writes := fun _ => .upTo 1

def sampleMetadataIo : MetadataIo where
  createsTemporary := true
  writes := fun _ => .upTo 1
  renames := true
  opens := true
  reads := fun _ => .upTo 1

theorem lazily_loaded_file_refines_source_in_memory :
    ∃ file, create DisjointRangeList.wire sampleMetadataIo [] [] 3 (InMemoryIo.ofData [1, 2, 3]) =
        .ok file ∧
      ∃ answers final position,
        Refinement.perform (Call.make DisjointRangeList.wire InMemoryIo.reader) file
            [.seek 1, .read sampleContentsIo 1,
              .reopen sampleMetadataIo (.ofData [1, 2, 3]), .read sampleContentsIo 3] =
          some (answers, final) ∧
        Refinement.PermitsAll (LocalCursor [1, 2, 3]) 0
          [.seek 1, .read sampleContentsIo 1,
            .reopen sampleMetadataIo (InMemoryIo.ofData [1, 2, 3]),
            .read sampleContentsIo 3] answers position ∧
        final.seekPos = position := by
  have valid : (InMemoryIo.serves [1, 2, 3]).Valid (.ofData [1, 2, 3]) := ⟨rfl, by decide⟩
  have opens : MetadataIo.Opens sampleMetadataIo := ⟨rfl, succeeds_upTo 1⟩
  rcases lazily_loaded_file_refines_source DisjointRangeList.wire_lawful
    (InMemoryIo.serves [1, 2, 3]) (by decide) opens [] valid with ⟨file, created, runs⟩
  have allowed : ∀ call ∈ [Call.seek 1, .read sampleContentsIo 1,
      .reopen sampleMetadataIo (.ofData [1, 2, 3]), .read sampleContentsIo 3],
      call.Allowed (InMemoryIo.serves [1, 2, 3]) := by
    intro call member
    simp only [List.mem_cons, List.not_mem_nil, or_false] at member
    rcases member with isCall | isCall | isCall | isCall
    all_goals simp [isCall, Call.Allowed, opens, valid]
  rcases runs _ allowed with
    ⟨answers, final, position, performed, permitted, isPosition, -⟩
  exact ⟨file, created, answers, final, position, performed, permitted, isPosition⟩

end LazilyLoadedFile

end Cuttlefish.Io
