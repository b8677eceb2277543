import Cuttlefish.Io.ReaderSeeker

/-! # Readers in memory

`InMemoryIo` of `io/in_memory.cc` as a reader. Its seeks grow the data. -/

namespace Cuttlefish.Io

structure InMemoryIo where
  data : Bytes
  cursor : Nat
  deriving DecidableEq, Repr

namespace InMemoryIo

def ofData (data : Bytes) : InMemoryIo := ⟨data, 0⟩

def clampRange (io : InMemoryIo) (start length : Nat) : Nat :=
  if io.data.length < start then 0 else min length (io.data.length - start)

def growTo (io : InMemoryIo) (newSize : Nat) : InMemoryIo :=
  if io.data.length < newSize then
    { io with data := io.data ++ Bytes.zeros (newSize - io.data.length) }
  else io

def read (io : InMemoryIo) (count : Nat) : Bytes × InMemoryIo :=
  let toRead := io.clampRange io.cursor count
  (io.data.readAt io.cursor toRead, { io with cursor := io.cursor + toRead })

def moveTo (io : InMemoryIo) (newPos : Nat) : Result Nat × InMemoryIo :=
  (.ok newPos, { io.growTo newPos with cursor := newPos })

def pread (io : InMemoryIo) (count offset : Nat) : Bytes :=
  io.data.readAt offset (io.clampRange offset count)

/-- Sizes of objects in memory are far below the limit of `int64_t`. -/
def reader : ReaderSeeker InMemoryIo where
  read io count := (.ok (io.read count).1, (io.read count).2)
  seekSet io offset := io.moveTo offset
  seekCur io offset := io.moveTo (max (io.cursor + offset) 0).toNat
  seekEnd io offset := io.moveTo (max (io.data.length + offset) 0).toNat
  pread io count offset := .ok (io.pread count offset)

theorem moveTo_within {io : InMemoryIo} {newPos : Nat} (within : newPos ≤ io.data.length) :
    io.moveTo newPos = (.ok newPos, { io with cursor := newPos }) := by
  rw [moveTo, growTo, if_neg (by omega)]

theorem readAt_clampRange (io : InMemoryIo) (start length : Nat) :
    io.data.readAt start (io.clampRange start length) = io.data.readAt start length := by
  simp only [clampRange, Bytes.readAt, List.take_eq_take_iff, List.length_drop]
  split <;> omega

theorem length_clampRange (io : InMemoryIo) (start length : Nat) :
    io.clampRange start length = (io.data.readAt start length).length := by
  rw [Bytes.readAt_length, clampRange]
  split <;> omega

def serves (data : Bytes) : Serves reader data where
  Valid io := io.data = data ∧ io.cursor ≤ data.length
  position := cursor
  position_le _ valid := valid.2
  read io count valid := by
    rcases valid with ⟨isData, bound⟩
    have reads := ReadsFrom.readAt io.data io.cursor count
    refine ⟨io.data.readAt io.cursor count, (io.read count).2, ?_, isData ▸ reads,
      ⟨isData, ?_⟩, ?_⟩
    · rw [← readAt_clampRange]
      rfl
    · have within := reads.within (isData ▸ bound)
      rw [← isData, read, length_clampRange]
      exact within
    · rw [read, length_clampRange]
  seekSet io offset valid within := by
    rcases valid with ⟨isData, bound⟩
    exact ⟨_, moveTo_within (isData ▸ within), ⟨isData, within⟩, rfl⟩
  seekCur io valid := by
    rcases valid with ⟨isData, bound⟩
    have target : (max ((io.cursor : Int) + 0) 0).toNat = io.cursor := by omega
    refine ⟨{ io with cursor := io.cursor }, ?_, ⟨isData, bound⟩, rfl⟩
    simp only [reader, target]
    exact moveTo_within (isData ▸ bound)
  seekEnd io valid := by
    rcases valid with ⟨isData, bound⟩
    have target : (max ((io.data.length : Int) + 0) 0).toNat = io.data.length := by omega
    refine ⟨{ io with cursor := io.data.length }, ?_, ⟨isData, Nat.le_of_eq (isData ▸ rfl)⟩,
      isData ▸ rfl⟩
    simp only [reader, target, ← isData]
    exact moveTo_within (Nat.le_refl _)
  pread io count offset valid := by
    rcases valid with ⟨isData, bound⟩
    refine ⟨io.data.readAt offset count, ?_, isData ▸ ReadsFrom.readAt io.data offset count⟩
    simp only [reader, pread, readAt_clampRange]

end InMemoryIo

end Cuttlefish.Io
