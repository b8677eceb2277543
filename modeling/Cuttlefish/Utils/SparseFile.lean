import Cuttlefish.Fs.SharedBuf

/-! # Copying a file

`Copy` and `SendFile` of `utils/files.cpp`: only the data of the source are sent, and the holes of
the destination come from its `ftruncate`. -/

namespace Cuttlefish.Utils

open Fs

structure SparseFile where
  content : Bytes
  isHole : Nat → Bool
  zero : ∀ position byte, isHole position = true → content[position]? = some byte → byte = 0

namespace SparseFile

variable (file : SparseFile)

def size : Nat := file.content.length

def positions (offset : Nat) : List Nat := List.range' offset (file.size - offset)

/-- `lseek` with `SEEK_HOLE`; the end of a file is a hole. `none` stands for `ENXIO`. -/
def seekHole (offset : Nat) : Option Nat :=
  if offset < file.size then some (((file.positions offset).find? file.isHole).getD file.size)
  else none

def seekData (offset : Nat) : Option Nat :=
  (file.positions offset).find? fun position => !file.isHole position

end SparseFile

/-- What the kernel does with each system call: whether it fails, and how many bytes a `sendfile`
transfers at most. -/
structure Kernel where
  fails : (call : Nat) → Bool
  sends : (call : Nat) → Nat

structure Copying where
  destination : OpenFile
  call : Nat

section

variable (kernel : Kernel) (source : SparseFile)

/-- The loop of `SendFile`; the turns of a loop are limited. The result comes with the offset that
the source was read to. -/
def sendFile : (limit : Nat) → Copying → (offset count : Nat) → Option (Bool × Nat × Copying)
  | 0, _, _, _ => none
  | limit + 1, copying, offset, count =>
      if count = 0 then some (true, offset, copying)
      else if kernel.fails copying.call then
        some (false, offset, ⟨copying.destination, copying.call + 1⟩)
      else
        let bytes := source.content.readAt offset (min count (max 1 (kernel.sends copying.call)))
        if bytes = [] then some (false, offset, ⟨copying.destination, copying.call + 1⟩)
        else
          sendFile limit ⟨copying.destination.write bytes, copying.call + 1⟩
            (offset + bytes.length) (count - bytes.length)

inductive Outcome
  | returned (result : Bool)
  | checkFailed
  deriving DecidableEq

def copyLoop (limit : Nat) : (turns : Nat) → Copying → (offset : Nat) → Option (Outcome × Copying)
  | 0, _, _ => none
  | turns + 1, copying, offset =>
      if offset < source.size then
        if kernel.fails copying.call then some (.returned false, copying)
        else
          match source.seekHole offset with
          | none => some (.returned true, copying)
          | some newOffset =>
              if kernel.fails (copying.call + 1) then some (.returned false, copying)
              else
                match sendFile kernel source limit
                  ⟨copying.destination.lseek offset, copying.call + 2⟩ offset
                  (newOffset - offset) with
                | none => none
                | some (false, _, copying) => some (.returned false, copying)
                | some (true, offset, copying) =>
                    if offset ≠ newOffset then some (.checkFailed, copying)
                    else if source.size ≤ offset then some (.returned true, copying)
                    else if kernel.fails copying.call then some (.returned false, copying)
                    else
                      match source.seekData offset with
                      | none => some (.returned true, copying)
                      | some newOffset =>
                          copyLoop limit turns ⟨copying.destination, copying.call + 1⟩ newOffset
      else some (.returned true, copying)

/-- `Copy`: the outcome and the content of the destination, which is `old` before. A failing
`ftruncate` is only logged. -/
def copy (old : Bytes) (limit : Nat) : Option (Outcome × Bytes) :=
  let opened : OpenFile := ⟨if kernel.fails 1 then old else [], 0⟩
  if kernel.fails 0 || kernel.fails 1 || kernel.fails 2 then
    some (.returned false, opened.content)
  else
    let truncated := if kernel.fails 3 then opened else opened.truncate source.size
    (copyLoop kernel source limit limit ⟨truncated, 4⟩ 0).map fun result =>
      (result.1, result.2.destination.content)

end

/-! ## Seeking -/

namespace SparseFile

variable {file : SparseFile} {offset position : Nat}

theorem mem_positions : position ∈ file.positions offset ↔ offset ≤ position ∧ position < file.size := by
  rw [positions, List.mem_range'_1]
  omega

theorem seekHole_of_lt (inFile : offset < file.size) :
    ∃ newOffset, file.seekHole offset = some newOffset ∧ offset ≤ newOffset ∧
      newOffset ≤ file.size ∧ (newOffset = offset → file.isHole offset = true) := by
  rw [seekHole, if_pos inFile]
  refine ⟨_, rfl, ?_⟩
  cases found : (file.positions offset).find? file.isHole with
  | none =>
      rw [Option.getD_none]
      refine ⟨Nat.le_of_lt inFile, Nat.le_refl _, ?_⟩
      omega
  | some hole =>
      rw [Option.getD_some]
      have inRange := mem_positions.mp (List.mem_of_find?_eq_some found)
      refine ⟨inRange.1, Nat.le_of_lt inRange.2, ?_⟩
      intro same
      rw [← same]
      exact List.find?_some found

theorem seekData_eq_none (noData : file.seekData offset = none) (after : offset ≤ position)
    (inFile : position < file.size) : file.isHole position = true := by
  rw [seekData, List.find?_eq_none] at noData
  simpa using noData position (mem_positions.mpr ⟨after, inFile⟩)

theorem seekData_eq_some {newOffset : Nat} (found : file.seekData offset = some newOffset) :
    offset ≤ newOffset ∧ newOffset < file.size ∧ file.isHole newOffset = false ∧
      ∀ position, offset ≤ position → position < newOffset → file.isHole position = true := by
  rw [seekData, positions, List.find?_range'_eq_some] at found
  obtain ⟨isData, inRange, before⟩ := found
  have bounds := List.mem_range'_1.mp inRange
  refine ⟨bounds.1, by omega, by simpa using isData, ?_⟩
  intro position after isBefore
  simpa using before position after isBefore

end SparseFile

/-! ## What was copied -/

/-- Up to the offset the destination has the bytes of the source, and behind it the zeros of
`ftruncate`. -/
def CopiedTo (source : SparseFile) (offset : Nat) (destination : Bytes) : Prop :=
  destination = source.content.take offset ++ Bytes.zeros (source.size - offset)

variable {source : SparseFile} {offset : Nat} {destination : Bytes}

theorem CopiedTo.end (copied : CopiedTo source source.size destination) :
    destination = source.content := by
  rw [copied, SparseFile.size, List.take_length, Nat.sub_self]
  exact List.append_nil _

theorem zeros_append_zeros (first second : Nat) :
    Bytes.zeros first ++ Bytes.zeros second = Bytes.zeros (first + second) :=
  List.replicate_append_replicate

theorem CopiedTo.length (copied : CopiedTo source offset destination)
    (inFile : offset ≤ source.size) : destination.length = source.size := by
  rw [SparseFile.size] at inFile
  rw [copied, List.length_append, List.length_take, Bytes.length_zeros, SparseFile.size]
  omega

theorem CopiedTo.write (copied : CopiedTo source offset destination) {count : Nat}
    (someBytes : source.content.readAt offset count ≠ []) :
    CopiedTo source (offset + (source.content.readAt offset count).length)
      (destination.writeAt offset (source.content.readAt offset count)) := by
  have readLength := Bytes.readAt_length source.content offset count
  have positive := List.length_pos_iff.mpr someBytes
  have inFile : offset ≤ source.size := by
    rw [SparseFile.size]
    omega
  have isSent : source.content.readAt offset count =
      (source.content.drop offset).take (source.content.readAt offset count).length := by
    rw [Bytes.readAt, List.take_eq_take_iff, List.length_take]
    omega
  generalize source.content.readAt offset count = bytes at someBytes readLength positive isSent ⊢
  have frontLength : (source.content.take offset).length = offset := by
    rw [List.length_take]
    exact Nat.min_eq_left inFile
  have front : destination.take offset = source.content.take offset := by
    rw [copied]
    exact List.take_left' frontLength
  have behind : destination.drop (offset + bytes.length) =
      Bytes.zeros (source.size - (offset + bytes.length)) := by
    rw [copied, ← List.drop_drop, List.drop_left' frontLength, Bytes.zeros, List.drop_replicate,
      Nat.sub_sub]
    rfl
  have noGap : offset - destination.length = 0 := by
    rw [copied.length inFile]
    omega
  rw [CopiedTo, Bytes.writeAt_of_ne_nil _ _ someBytes, front, noGap, behind, List.take_add,
    ← isSent]
  simp [Bytes.zeros]

theorem CopiedTo.skip (copied : CopiedTo source offset destination) {newOffset : Nat}
    (after : offset ≤ newOffset) (inFile : newOffset ≤ source.size)
    (holes : ∀ position, offset ≤ position → position < newOffset →
      source.isHole position = true) : CopiedTo source newOffset destination := by
  have hole : (source.content.drop offset).take (newOffset - offset) =
      Bytes.zeros (newOffset - offset) := by
    apply List.eq_replicate_iff.mpr
    constructor
    · rw [SparseFile.size] at inFile
      rw [List.length_take, List.length_drop]
      omega
    · intro byte member
      obtain ⟨index, inHole, isByte⟩ := List.mem_iff_getElem.mp member
      rw [List.getElem_take, List.getElem_drop] at isByte
      rw [List.length_take] at inHole
      apply source.zero (offset + index) byte (holes _ (by omega) (by omega))
      exact List.getElem?_eq_some_iff.mpr ⟨_, isByte⟩
  have split : newOffset = offset + (newOffset - offset) := by omega
  have rest : source.size - offset = newOffset - offset + (source.size - newOffset) := by omega
  rw [CopiedTo] at copied ⊢
  rw [copied, rest, ← zeros_append_zeros, ← hole, ← List.append_assoc, ← List.take_add, ← split]

/-! ## The loops -/

variable {kernel : Kernel}

theorem sendFile_sends (succeeds : ∀ call, kernel.fails call = false) {limit count : Nat}
    (enough : count < limit) {copying : Copying} {offset : Nat}
    (copied : CopiedTo source offset copying.destination.content)
    (atOffset : copying.destination.position = offset) (inFile : offset + count ≤ source.size) :
    ∃ final, sendFile kernel source limit copying offset count =
        some (true, offset + count, final) ∧
      CopiedTo source (offset + count) final.destination.content := by
  induction limit generalizing copying offset count with
  | zero => omega
  | succ limit induction =>
      rw [sendFile]
      by_cases done : count = 0
      · rw [if_pos done, done]
        exact ⟨copying, rfl, copied⟩
      · rw [if_neg done, succeeds, if_neg Bool.false_ne_true]
        dsimp only
        have sends := Bytes.readAt_length source.content offset
          (min count (max 1 (kernel.sends copying.call)))
        rw [SparseFile.size] at inFile
        have someBytes : source.content.readAt offset
            (min count (max 1 (kernel.sends copying.call))) ≠ [] := by
          apply List.ne_nil_of_length_pos
          omega
        have written := copied.write someBytes
        rw [if_neg someBytes]
        generalize source.content.readAt offset
          (min count (max 1 (kernel.sends copying.call))) = bytes at sends written ⊢
        obtain ⟨final, sent, isFinal⟩ := @induction (count - bytes.length) (by omega)
          ⟨copying.destination.write bytes, copying.call + 1⟩ (offset + bytes.length)
          (by rw [← atOffset] at written ⊢; exact written) (by rw [← atOffset]; rfl)
          (by rw [SparseFile.size]; omega)
        have reached : offset + bytes.length + (count - bytes.length) = offset + count := by omega
        rw [reached] at sent isFinal
        exact ⟨final, sent, isFinal⟩

theorem copyLoop_copies (succeeds : ∀ call, kernel.fails call = false) {limit turns : Nat}
    (enough : source.size < limit) {copying : Copying} {offset : Nat}
    (enoughTurns : source.size < turns + offset)
    (copied : CopiedTo source offset copying.destination.content) (inFile : offset ≤ source.size) :
    ∃ final, copyLoop kernel source limit turns copying offset =
        some (.returned true, final) ∧ final.destination.content = source.content := by
  induction turns generalizing copying offset with
  | zero => omega
  | succ turns induction =>
      rw [copyLoop]
      by_cases more : offset < source.size
      · obtain ⟨newOffset, found, after, holeInFile, isHole⟩ := SparseFile.seekHole_of_lt more
        obtain ⟨sentTo, sent, isSent⟩ := @sendFile_sends source kernel succeeds limit
          (newOffset - offset) (by omega) ⟨copying.destination.lseek offset, copying.call + 2⟩
          offset copied rfl (by omega)
        have reached : offset + (newOffset - offset) = newOffset := by omega
        rw [reached] at sent isSent
        rw [if_pos more, succeeds, if_neg Bool.false_ne_true, found]
        dsimp only
        rw [succeeds, if_neg Bool.false_ne_true, sent]
        dsimp only
        rw [if_neg (fun different => different rfl)]
        by_cases ended : source.size ≤ newOffset
        · have atEnd : newOffset = source.size := by omega
          rw [if_pos ended]
          rw [atEnd] at isSent
          exact ⟨sentTo, rfl, isSent.end⟩
        · rw [if_neg ended, succeeds, if_neg Bool.false_ne_true]
          cases data : source.seekData newOffset with
          | none =>
              have skipped := isSent.skip holeInFile (Nat.le_refl _) fun position isAfter inSource =>
                SparseFile.seekData_eq_none data isAfter inSource
              exact ⟨sentTo, rfl, skipped.end⟩
          | some next =>
              obtain ⟨isAfter, nextInFile, isData, holes⟩ := SparseFile.seekData_eq_some data
              have skipped := isSent.skip isAfter (Nat.le_of_lt nextInFile) holes
              have forward : offset < next := by
                rcases Nat.lt_or_ge offset next with less | notLess
                · exact less
                · have same : newOffset = offset := by omega
                  have sameNext : next = offset := by omega
                  rw [sameNext, isHole same] at isData
                  cases isData
              exact @induction ⟨sentTo.destination, sentTo.call + 1⟩ next (by omega) skipped
                (Nat.le_of_lt nextInFile)
      · have atEnd : offset = source.size := by omega
        rw [if_neg more]
        rw [atEnd] at copied
        exact ⟨copying, rfl, copied.end⟩

/-- With as many turns as there are bytes, and one more, the file is copied. -/
theorem copy_exact (succeeds : ∀ call, kernel.fails call = false) (old : Bytes) {limit : Nat}
    (enough : source.size < limit) :
    copy kernel source old limit = some (.returned true, source.content) := by
  have truncated : CopiedTo source 0 (OpenFile.truncate ⟨[], 0⟩ source.size).content := by
    simp [CopiedTo, OpenFile.truncate, Bytes.zeros]
  obtain ⟨final, copies, isFinal⟩ := @copyLoop_copies source kernel succeeds limit limit enough
    ⟨OpenFile.truncate ⟨[], 0⟩ source.size, 4⟩ 0 enough truncated (Nat.zero_le _)
  rw [copy]
  simp only [succeeds, Bool.or_self, Bool.false_eq_true, if_false]
  rw [copies, Option.map_some, isFinal]

def holesAround : SparseFile where
  content := [0, 7, 8, 9, 0]
  isHole := fun position => position = 0 || position = 4
  zero := by
    intro position byte isHole isByte
    rcases Bool.or_eq_true _ _ |>.mp isHole with first | last
    · rw [of_decide_eq_true first] at isByte
      exact (Option.some.inj isByte).symm
    · rw [of_decide_eq_true last] at isByte
      exact (Option.some.inj isByte).symm

theorem copy_exact_holesAround :
    copy ⟨fun _ => false, fun _ => 2⟩ holesAround [1, 1, 1, 1, 1, 1, 1] 6 =
      some (.returned true, [0, 7, 8, 9, 0]) :=
  copy_exact (fun _ => rfl) _ (by decide)

end Cuttlefish.Utils
