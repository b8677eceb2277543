import Cuttlefish.Foundation.Bytes

/-! # `ReadAll` and `WriteAll`

The loops of `common/libs/fs/shared_buf.cc` over a regular file. What each
`read(2)` or `write(2)` transfers is the environment's choice: a `Transfer` for
every call, indexed by the number of the call. -/

namespace Cuttlefish.Fs

/-- Outcome of one system call: an error, or a transfer of at most `count`
bytes. -/
inductive Transfer
  | error
  | upTo (count : Nat)
  deriving DecidableEq, Repr

structure OpenFile where
  content : Bytes
  position : Nat
  deriving DecidableEq, Repr

namespace OpenFile

def write (file : OpenFile) (data : Bytes) : OpenFile where
  content := file.content.writeAt file.position data
  position := file.position + data.length

def truncate (file : OpenFile) (length : Nat) : OpenFile where
  content := file.content.take length ++ List.replicate (length - file.content.length) 0
  position := file.position

def lseek (file : OpenFile) (position : Nat) : OpenFile where
  content := file.content
  position := position

@[simp] theorem write_nil (file : OpenFile) : file.write [] = file := by
  simp [write, Bytes.writeAt]

theorem write_of_atEnd (file : OpenFile) (data : Bytes)
    (atEnd : file.position = file.content.length) :
    file.write data =
      { content := file.content ++ data,
        position := file.content.length + data.length } := by
  rw [write, atEnd, Bytes.writeAt_end]

@[simp] theorem truncate_zero (file : OpenFile) :
    file.truncate 0 = { content := [], position := file.position } := by
  simp [truncate]

theorem write_write (file : OpenFile) (first second : Bytes) :
    (file.write first).write second = file.write (first ++ second) := by
  simp only [write, Bytes.writeAt_writeAt, List.length_append, Nat.add_assoc]

end OpenFile

def buffSize : Nat := 16384

/-- Number of bytes a successful `read(2)` asked for at most `count` bytes may
return. On a regular file only the end of the file returns none. -/
def readCount (count : Nat) : Nat := min (max 1 count) (buffSize - 1)

theorem readCount_pos (count : Nat) : 0 < readCount count := by
  rw [readCount, buffSize]
  omega

private def readAllLoop (transfers : Nat → Transfer) (content : Bytes) :
    (fuel call position : Nat) → Bytes → Option Bytes
  | 0, _, _, str => some str
  | fuel + 1, call, position, str =>
      match transfers call with
      | .error => none
      | .upTo count =>
          let chunk := content.readAt position (readCount count)
          if chunk = [] then some str
          else readAllLoop transfers content fuel (call + 1) (position + chunk.length)
            (str ++ chunk)

def readAll (transfers : Nat → Transfer) (content : Bytes) : Option Bytes :=
  readAllLoop transfers content (content.length + 1) 0 0 []

private theorem readAllLoop_eq_content (transfers : Nat → Transfer) (content : Bytes) :
    ∀ (fuel call position : Nat) (str result : Bytes),
      content.length - position < fuel → str = content.take position →
      readAllLoop transfers content fuel call position str = some result →
      result = content
  | 0, _, _, _, _ => by
      intro enough
      omega
  | fuel + 1, call, position, str, result => by
      intro enough soFar loaded
      rw [readAllLoop] at loaded
      cases outcome : transfers call with
      | error => simp [outcome] at loaded
      | upTo count =>
          simp only [outcome] at loaded
          have positive := readCount_pos count
          by_cases atEnd : content.readAt position (readCount count) = []
          · have passed := (Bytes.readAt_eq_nil_iff content position _ positive).mp atEnd
            simp only [atEnd, if_true, Option.some.injEq] at loaded
            rw [← loaded, soFar, List.take_of_length_le passed]
          · have notPassed : ¬ content.length ≤ position := fun passed =>
              atEnd ((Bytes.readAt_eq_nil_iff content position _ positive).mpr passed)
            have chunkLength := content.readAt_length position (readCount count)
            simp only [atEnd, if_false] at loaded
            apply readAllLoop_eq_content transfers content fuel _ _ _ _ ?_ ?_ loaded
            · omega
            · rw [soFar, Bytes.take_append_readAt, chunkLength]
              exact List.take_eq_take_iff.mpr (by omega)

theorem readAll_eq_content {transfers : Nat → Transfer} {content str : Bytes}
    (loaded : readAll transfers content = some str) : str = content :=
  readAllLoop_eq_content transfers content _ 0 0 [] str (by omega) rfl loaded

private def writeAllLoop (transfers : Nat → Transfer) (buf : Bytes) :
    (fuel call total : Nat) → OpenFile → Int × OpenFile
  | 0, _, total, file => (total, file)
  | fuel + 1, call, total, file =>
      match transfers call with
      | .error => (-1, file)
      | .upTo count =>
          let data := (buf.drop total).take count
          if data = [] then (total, file)
          else if total + data.length < buf.length then
            writeAllLoop transfers buf fuel (call + 1) (total + data.length)
              (file.write data)
          else (total + data.length, file.write data)

def writeAll (transfers : Nat → Transfer) (buf : Bytes) (file : OpenFile) :
    Int × OpenFile :=
  writeAllLoop transfers buf (buf.length + 1) 0 0 file

private def acceptedLoop (transfers : Nat → Transfer) (size : Nat) :
    (fuel call total : Nat) → Int × Nat
  | 0, _, total => (total, total)
  | fuel + 1, call, total =>
      match transfers call with
      | .error => (-1, total)
      | .upTo count =>
          let data := min count (size - total)
          if data = 0 then (total, total)
          else if total + data < size then
            acceptedLoop transfers size fuel (call + 1) (total + data)
          else (total + data, total + data)

/-- What the environment does with a buffer of `size` bytes handed to
`WriteAll`: the return value, and the number of bytes it took before the loop
ended. -/
def accepted (transfers : Nat → Transfer) (size : Nat) : Int × Nat :=
  acceptedLoop transfers size (size + 1) 0 0

private theorem writeAllLoop_eq (transfers : Nat → Transfer) (buf : Bytes)
    (start : OpenFile) :
    ∀ (fuel call total : Nat),
      writeAllLoop transfers buf fuel call total (start.write (buf.take total)) =
        ((acceptedLoop transfers buf.length fuel call total).1,
          start.write (buf.take (acceptedLoop transfers buf.length fuel call total).2))
  | 0, _, _ => rfl
  | fuel + 1, call, total => by
      rw [writeAllLoop, acceptedLoop]
      cases transfers call with
      | error => rfl
      | upTo count =>
          have dataLength : ((buf.drop total).take count).length =
              min count (buf.length - total) := by simp
          have joined : (start.write (buf.take total)).write ((buf.drop total).take count) =
              start.write (buf.take (total + min count (buf.length - total))) := by
            rw [OpenFile.write_write, ← List.take_add]
            exact congrArg start.write (List.take_eq_take_iff.mpr (by omega))
          have nothing : (buf.drop total).take count = [] ↔
              min count (buf.length - total) = 0 := by
            rw [← List.length_eq_zero_iff, dataLength]
          simp only [nothing, dataLength, joined]
          split
          · rfl
          · split
            · exact writeAllLoop_eq transfers buf start fuel (call + 1) _
            · rfl

theorem writeAll_eq (transfers : Nat → Transfer) (buf : Bytes) (file : OpenFile) :
    writeAll transfers buf file =
      ((accepted transfers buf.length).1,
        file.write (buf.take (accepted transfers buf.length).2)) := by
  simpa [writeAll, accepted] using
    writeAllLoop_eq transfers buf file (buf.length + 1) 0 0

private theorem acceptedLoop_cases (transfers : Nat → Transfer) (size : Nat) :
    ∀ (fuel call total : Nat),
      (acceptedLoop transfers size fuel call total).1 = -1 ∨
        (acceptedLoop transfers size fuel call total).1 =
          (acceptedLoop transfers size fuel call total).2
  | 0, _, _ => .inr rfl
  | fuel + 1, call, total => by
      rw [acceptedLoop]
      cases transfers call with
      | error => exact .inl rfl
      | upTo count =>
          simp only
          split
          · exact .inr rfl
          · split
            · exact acceptedLoop_cases transfers size fuel (call + 1) _
            · exact .inr rfl

theorem accepted_all {transfers : Nat → Transfer} {size : Nat}
    (complete : (accepted transfers size).1 = size) :
    (accepted transfers size).2 = size := by
  rcases acceptedLoop_cases transfers size (size + 1) 0 0 with failed | equal
  · change (accepted transfers size).1 = -1 at failed
    omega
  · change (accepted transfers size).1 = (accepted transfers size).2 at equal
    omega

/-! ## Complete transfers -/

def Succeeds (transfers : Nat → Transfer) : Prop := ∀ call, transfers call ≠ .error

theorem succeeds_upTo (count : Nat) : Succeeds fun _ => .upTo count := fun _ => by simp

private theorem readAllLoop_complete {transfers : Nat → Transfer}
    (succeeds : Succeeds transfers) (content : Bytes) :
    ∀ (fuel call position : Nat) (str : Bytes),
      ∃ result, readAllLoop transfers content fuel call position str = some result
  | 0, _, _, str => ⟨str, rfl⟩
  | fuel + 1, call, position, str => by
      cases outcome : transfers call with
      | error => exact absurd outcome (succeeds call)
      | upTo count =>
          simp only [readAllLoop, outcome]
          split
          · exact ⟨str, rfl⟩
          · exact readAllLoop_complete succeeds content fuel _ _ _

theorem readAll_complete {transfers : Nat → Transfer} (succeeds : Succeeds transfers)
    (content : Bytes) : readAll transfers content = some content := by
  rcases readAllLoop_complete succeeds content (content.length + 1) 0 0 [] with
    ⟨result, loaded⟩
  have whole := readAll_eq_content loaded
  rw [whole] at loaded
  exact loaded

def Progresses (transfers : Nat → Transfer) : Prop :=
  ∀ call, ∃ count, 0 < count ∧ transfers call = .upTo count

theorem progresses_upTo {count : Nat} (positive : 0 < count) :
    Progresses fun _ => .upTo count :=
  fun _ => ⟨count, positive, rfl⟩

private theorem acceptedLoop_complete {transfers : Nat → Transfer}
    (progresses : Progresses transfers) (size : Nat) :
    ∀ (fuel call total : Nat), size - total < fuel → total ≤ size →
      acceptedLoop transfers size fuel call total = ((size : Int), size)
  | 0, _, _ => by
      intro enough
      omega
  | fuel + 1, call, total => by
      intro enough bound
      rcases progresses call with ⟨count, positive, outcome⟩
      simp only [acceptedLoop, outcome]
      split
      · have finished : total = size := by omega
        rw [finished]
      · split
        · exact acceptedLoop_complete progresses size fuel _ _ (by omega) (by omega)
        · rw [Prod.mk.injEq]
          omega

theorem accepted_complete {transfers : Nat → Transfer} (progresses : Progresses transfers)
    (size : Nat) : accepted transfers size = ((size : Int), size) :=
  acceptedLoop_complete progresses size (size + 1) 0 0 (by omega) (by omega)

end Cuttlefish.Fs
