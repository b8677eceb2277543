import Cuttlefish.Fs.SharedBuf

/-! # Files by path

A file system as far as whole regular files are concerned: the content of every
file that can be opened. Two paths name two files. -/

namespace Cuttlefish.Fs

abbrev Path := String

structure FileSystem where
  content : Path → Option Bytes

/-- The largest size of a file: `off_t` is signed. -/
def maxFileSize : Nat := 9223372036854775807

def preferredBufferSize : Nat := 8192

namespace FileSystem

def set (files : FileSystem) (path : Path) (bytes : Bytes) : FileSystem where
  content other := if other = path then some bytes else files.content other

def remove (files : FileSystem) (path : Path) : FileSystem where
  content other := if other = path then none else files.content other

/-- `open(2)` with `O_CREAT` and without `O_TRUNC`. -/
def create (files : FileSystem) (path : Path) : FileSystem :=
  match files.content path with
  | none => files.set path []
  | some _ => files

def rename (files : FileSystem) (oldpath newpath : Path) (bytes : Bytes) : FileSystem :=
  (files.remove oldpath).set newpath bytes

/-- `FileSize`, which is zero when `stat(2)` fails. -/
def fileSize (files : FileSystem) (path : Path) : Nat :=
  match files.content path with
  | none => 0
  | some bytes => bytes.length

variable (files : FileSystem)

@[simp]
theorem content_set_self (path : Path) (bytes : Bytes) :
    (files.set path bytes).content path = some bytes := by
  simp [set]

theorem content_set_of_ne {path other : Path} (bytes : Bytes) (different : other ≠ path) :
    (files.set path bytes).content other = files.content other := by
  simp [set, different]

theorem set_set (path : Path) (first second : Bytes) :
    (files.set path first).set path second = files.set path second := by
  simp only [set, FileSystem.mk.injEq]
  funext other
  split <;> rfl

theorem set_self {path : Path} {bytes : Bytes} (stored : files.content path = some bytes) :
    files.set path bytes = files := by
  rcases files with ⟨content⟩
  simp only [set, FileSystem.mk.injEq]
  funext other
  split
  next same => exact (same ▸ stored).symm
  next => rfl

theorem content_create {path other : Path} {bytes : Bytes}
    (stored : files.content other = some bytes) :
    (files.create path).content other = some bytes := by
  rw [create]
  cases present : files.content path with
  | some _ => exact stored
  | none =>
      have different : other ≠ path := by
        intro same
        rw [same, present] at stored
        contradiction
      rw [content_set_of_ne _ _ different]
      exact stored

@[simp]
theorem content_rename_new (oldpath newpath : Path) (bytes : Bytes) :
    (files.rename oldpath newpath bytes).content newpath = some bytes :=
  content_set_self _ _ _

theorem content_rename_of_ne {oldpath newpath other : Path} (bytes : Bytes)
    (notOld : other ≠ oldpath) (notNew : other ≠ newpath) :
    (files.rename oldpath newpath bytes).content other = files.content other := by
  rw [rename, content_set_of_ne _ _ notNew]
  simp [remove, notOld]

end FileSystem

/-! ## Writing a new file

A descriptor of a file that was created empty and is only written through it is
always at the end of the file. -/

variable {files final : FileSystem} {source path : Path}

def writeAllTo (transfers : Nat → Transfer) (files : FileSystem) (path : Path) (buf : Bytes) :
    Int × FileSystem :=
  let bytes := (files.content path).getD []
  if maxFileSize < bytes.length + buf.length then (-1, files)
  else
    let (written, file) := writeAll transfers buf ⟨bytes, bytes.length⟩
    (written, files.set path file.content)

theorem writeAllTo_complete {transfers : Nat → Transfer} {buf written : Bytes}
    (stored : files.content path = some written)
    (complete : (writeAllTo transfers files path buf).1 = buf.length) :
    (writeAllTo transfers files path buf).2 = files.set path (written ++ buf) ∧
      written.length + buf.length ≤ maxFileSize := by
  rw [writeAllTo] at complete ⊢
  rw [stored] at complete ⊢
  dsimp only [Option.getD_some] at complete ⊢
  by_cases tooLarge : maxFileSize < written.length + buf.length
  · simp only [tooLarge, if_true] at complete
    omega
  · simp only [tooLarge, if_false] at complete ⊢
    rw [writeAll_eq transfers buf ⟨written, written.length⟩] at complete ⊢
    rw [accepted_all complete, List.take_length,
      OpenFile.write_of_atEnd ⟨written, written.length⟩ buf rfl]
    exact ⟨rfl, by omega⟩

theorem writeAllTo_of_transfers {count : Nat} (positive : 0 < count) {buf written : Bytes}
    (stored : files.content path = some written)
    (fits : written.length + buf.length ≤ maxFileSize) :
    (writeAllTo (fun _ => .upTo count) files path buf).1 = buf.length := by
  rw [writeAllTo]
  rw [stored]
  dsimp only [Option.getD_some]
  rw [if_neg (by omega), writeAll_eq _ _ ⟨written, written.length⟩,
    accepted_complete (progresses_upTo positive)]

/-! ## Copying -/

/-- The inner loop of `CopyFrom`: every `write(2)` is given the whole buffer, also
after one that took only a part of it. -/
def writeBuffer (writes : Nat → Transfer) (buffer : Bytes) :
    (fuel call written : Nat) → OpenFile → Option (Nat × OpenFile)
  | 0, _, _, _ => none
  | fuel + 1, call, written, file =>
      match writes call with
      | .error => none
      | .upTo count =>
          let res := min count buffer.length
          if res = 0 ∨ maxFileSize < file.position + res then none
          else if written + res < buffer.length then
            writeBuffer writes buffer fuel (call + 1) (written + res)
              (file.write (buffer.take res))
          else some (call + 1, file.write (buffer.take res))

/-- The loop of `CopyFrom`. The file that is read may be the one that is written. -/
def copyLoop (reads writes : Nat → Transfer) (source : OpenFile → Bytes) :
    (fuel readCall writeCall length position : Nat) → OpenFile → Option OpenFile
  | 0, _, _, length, _, file => if length = 0 then some file else none
  | fuel + 1, readCall, writeCall, length, position, file =>
      if length = 0 then some file
      else
        match reads readCall with
        | .error => none
        | .upTo count =>
            let buffer := (source file).readAt position
              (min (max 1 count) (min preferredBufferSize length))
            if buffer = [] then none
            else
              match writeBuffer writes buffer buffer.length writeCall 0 file with
              | none => none
              | some (writeCall, file) =>
                  copyLoop reads writes source fuel (readCall + 1) writeCall
                    (length - buffer.length) (position + buffer.length) file

/-- `CopyFrom` to the end of `path` of `length` bytes from the start of `source`;
`none` when it returns false. -/
def copyFrom (reads writes : Nat → Transfer) (files : FileSystem) (source path : Path)
    (length : Nat) : Option FileSystem :=
  let written := (files.content path).getD []
  let bytes := fun file : OpenFile =>
    if source = path then file.content else (files.content source).getD []
  (copyLoop reads writes bytes length 0 0 length 0 ⟨written, written.length⟩).map fun file =>
    files.set path file.content

/-- Every `write(2)` that succeeds takes a whole buffer. -/
def WholeBuffers (writes : Nat → Transfer) : Prop :=
  ∀ call count, writes call = .upTo count → preferredBufferSize ≤ count

theorem writeBuffer_whole {writes : Nat → Transfer} (whole : WholeBuffers writes)
    {buffer : Bytes} (small : buffer.length ≤ preferredBufferSize) {fuel call next : Nat}
    {file after : OpenFile}
    (succeeded : writeBuffer writes buffer fuel call 0 file = some (next, after)) :
    after = file.write buffer ∧ file.position + buffer.length ≤ maxFileSize := by
  cases fuel with
  | zero => contradiction
  | succ fuel =>
      rw [writeBuffer] at succeeded
      cases outcome : writes call with
      | error => simp [outcome] at succeeded
      | upTo count =>
          have enough := whole call count outcome
          have res : min count buffer.length = buffer.length := by omega
          simp only [outcome, res, List.take_length, Nat.zero_add, Nat.lt_irrefl,
            if_false] at succeeded
          by_cases refused : buffer.length = 0 ∨ maxFileSize < file.position + buffer.length
          · rw [if_pos refused] at succeeded
            contradiction
          · simp only [refused, if_false, Option.some.injEq, Prod.mk.injEq] at succeeded
            exact ⟨succeeded.2.symm, by omega⟩

theorem readAt_append_readAt (content : Bytes) (position : Nat) {size length : Nat}
    (part : size ≤ length) :
    content.readAt position size ++ content.readAt (position + size) (length - size) =
      content.readAt position length := by
  have split : length = size + (length - size) := by omega
  rw [split, Bytes.readAt, Bytes.readAt, Bytes.readAt, List.take_add, List.drop_drop]
  simp

theorem copyLoop_whole {reads writes : Nat → Transfer} (whole : WholeBuffers writes)
    {content : Bytes} {fuel readCall writeCall length position : Nat} {file final : OpenFile}
    (within : position + length ≤ content.length) (bound : file.position ≤ maxFileSize)
    (copied : copyLoop reads writes (fun _ => content) fuel readCall writeCall length position
      file = some final) :
    final = file.write (content.readAt position length) ∧
      file.position + length ≤ maxFileSize := by
  induction fuel generalizing readCall writeCall length position file with
  | zero =>
      rw [copyLoop] at copied
      by_cases finished : length = 0
      · rcases Option.some.inj ((if_pos finished).symm.trans copied) with rfl
        simp [finished, Bytes.readAt, bound]
      · simp [finished] at copied
  | succ fuel induction =>
      rw [copyLoop] at copied
      by_cases finished : length = 0
      · rcases Option.some.inj ((if_pos finished).symm.trans copied) with rfl
        simp [finished, Bytes.readAt, bound]
      rw [if_neg finished] at copied
      cases outcome : reads readCall with
      | error => simp [outcome] at copied
      | upTo count =>
          simp only [outcome] at copied
          generalize request : min (max 1 count) (min preferredBufferSize length) = size at copied
          have bufferLength : (content.readAt position size).length = size := by
            rw [Bytes.readAt_length]
            omega
          by_cases empty : content.readAt position size = []
          · simp [empty] at copied
          rw [if_neg empty] at copied
          cases wrote : writeBuffer writes (content.readAt position size)
              (content.readAt position size).length writeCall 0 file with
          | none => simp [wrote] at copied
          | some result =>
              rcases result with ⟨nextCall, after⟩
              rw [wrote] at copied
              dsimp only at copied
              rcases writeBuffer_whole whole (by omega) wrote with ⟨isAfter, fits⟩
              rw [isAfter, bufferLength] at copied
              rw [bufferLength] at fits
              have moved : (file.write (content.readAt position size)).position =
                  file.position + size := by
                rw [OpenFile.write, bufferLength]
              rcases induction (by omega) (moved ▸ fits) copied with ⟨isFinal, total⟩
              rw [isFinal, OpenFile.write_write, readAt_append_readAt _ _ (by omega)]
              exact ⟨rfl, by omega⟩

theorem copyFrom_whole {reads writes : Nat → Transfer} (whole : WholeBuffers writes)
    {content written : Bytes} (distinct : source ≠ path)
    (sourceStored : files.content source = some content)
    (stored : files.content path = some written) (bound : written.length ≤ maxFileSize)
    (copied : copyFrom reads writes files source path content.length = some final) :
    final = files.set path (written ++ content) ∧
      written.length + content.length ≤ maxFileSize := by
  simp only [copyFrom, distinct, if_false, sourceStored, stored, Option.getD_some] at copied
  rcases Option.map_eq_some_iff.mp copied with ⟨file, looped, rfl⟩
  have everything : content.readAt 0 content.length = content := by simp [Bytes.readAt]
  rcases copyLoop_whole whole (by omega) bound looped with ⟨isFile, fits⟩
  rw [isFile, everything, OpenFile.write_of_atEnd ⟨written, written.length⟩ _ rfl]
  exact ⟨rfl, fits⟩

/-! ## Complete transfers -/

private theorem writeBuffer_of_transfers {buffer : Bytes} (nonempty : buffer ≠ [])
    (small : buffer.length ≤ preferredBufferSize) {call : Nat} {file : OpenFile}
    (fits : file.position + buffer.length ≤ maxFileSize) :
    writeBuffer (fun _ => .upTo preferredBufferSize) buffer buffer.length call 0 file =
      some (call + 1, file.write buffer) := by
  have positive : buffer.length ≠ 0 := by simpa using nonempty
  rcases Nat.exists_eq_succ_of_ne_zero positive with ⟨fuel, isSucc⟩
  have res : min preferredBufferSize buffer.length = buffer.length := by omega
  have accepted : ¬ (buffer.length = 0 ∨ maxFileSize < file.position + buffer.length) := by
    omega
  have oneRound : ∀ fuel, writeBuffer (fun _ => .upTo preferredBufferSize) buffer (fuel + 1)
      call 0 file = some (call + 1, file.write buffer) := by
    intro fuel
    simp only [writeBuffer, res, List.take_length, Nat.zero_add, Nat.lt_irrefl, accepted,
      if_false]
  rw [← oneRound fuel, ← Nat.succ_eq_add_one, ← isSucc]

theorem copyLoop_of_transfers {content : Bytes} {fuel readCall writeCall length position : Nat}
    {file : OpenFile} (enough : length ≤ fuel) (within : position + length ≤ content.length)
    (fits : file.position + length ≤ maxFileSize) :
    ∃ final, copyLoop (fun _ => .upTo preferredBufferSize) (fun _ => .upTo preferredBufferSize)
      (fun _ => content) fuel readCall writeCall length position file = some final := by
  induction fuel generalizing readCall writeCall length position file with
  | zero => exact ⟨file, by rw [copyLoop, if_pos (Nat.le_zero.mp enough)]⟩
  | succ fuel induction =>
      by_cases finished : length = 0
      · exact ⟨file, by rw [copyLoop, if_pos finished]⟩
      rw [copyLoop, if_neg finished]
      dsimp only
      generalize request : min (max 1 preferredBufferSize) (min preferredBufferSize length) = size
      have sizeBounds : 0 < size ∧ size ≤ length ∧ size ≤ preferredBufferSize := by
        rw [preferredBufferSize] at request ⊢
        omega
      have bufferLength : (content.readAt position size).length = size := by
        rw [Bytes.readAt_length]
        omega
      have nonempty : content.readAt position size ≠ [] := by
        rw [← List.length_pos_iff, bufferLength]
        exact sizeBounds.1
      have moved : (file.write (content.readAt position size)).position =
          file.position + size := by
        rw [OpenFile.write, bufferLength]
      rw [if_neg nonempty, writeBuffer_of_transfers nonempty (by omega) (by omega)]
      dsimp only
      rw [bufferLength]
      exact induction (by omega) (by omega) (by omega)

theorem copyFrom_of_transfers {content written : Bytes} (distinct : source ≠ path)
    (sourceStored : files.content source = some content)
    (stored : files.content path = some written)
    (fits : written.length + content.length ≤ maxFileSize) :
    ∃ final, copyFrom (fun _ => .upTo preferredBufferSize)
      (fun _ => .upTo preferredBufferSize) files source path content.length = some final :=
by
  have fitsBehind : (⟨written, written.length⟩ : OpenFile).position + content.length ≤
      maxFileSize := fits
  rcases copyLoop_of_transfers (Nat.le_refl _) (Nat.le_of_eq (Nat.zero_add _)) fitsBehind with
    ⟨file, looped⟩
  refine ⟨files.set path file.content, ?_⟩
  simp only [copyFrom, distinct, if_false, sourceStored, stored, Option.getD_some]
  exact Option.map_eq_some_iff.mpr ⟨file, looped, rfl⟩

end Cuttlefish.Fs
