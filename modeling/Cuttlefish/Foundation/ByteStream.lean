import Cuttlefish.Foundation.Bytes

/-! # Stream sockets

The bytes that are under way on a stream socket, with the open files whose descriptors
were sent along. A read returns any part of what it asks for. -/

namespace Cuttlefish.ByteStream

structure Cell (File : Type) where
  byte : UInt8
  file : Option File

variable {File : Type}

def plain (bytes : Bytes) : List (Cell File) := bytes.map fun byte => ⟨byte, none⟩

def withFile (file : File) : Bytes → List (Cell File)
  | [] => []
  | first :: rest => ⟨first, some file⟩ :: plain rest

def bytesOf (cells : List (Cell File)) : Bytes := cells.map Cell.byte

/-- `read`: where the split says so, fewer bytes than asked for, but at least one unless
the stream has ended. Descriptors among them are lost. -/
def read (split : Nat → Nat) (size : Nat) (stream : List (Cell File)) :
    Bytes × List (Cell File) :=
  let count := min size (max 1 (split stream.length))
  (bytesOf (stream.take count), stream.drop count)

def readAll (split : Nat → Nat) (size : Nat) (stream : List (Cell File)) :
    Option (Bytes × List (Cell File)) :=
  if size = 0 then some ([], stream)
  else
    match read split size stream with
    | ([], _) => none
    | (byte :: bytes, rest) =>
        match readAll split (size - (bytes.length + 1)) rest with
        | none => none
        | some (more, rest) => some (byte :: bytes ++ more, rest)
  termination_by size

/-- `recvmsg` with `MSG_WAITALL`: all bytes asked for, and a descriptor among them. -/
def receiveAll (size : Nat) (stream : List (Cell File)) :
    Option (Bytes × Option File × List (Cell File)) :=
  if size ≤ stream.length then
    some (bytesOf (stream.take size), (stream.take size).findSome? Cell.file, stream.drop size)
  else none

@[simp] theorem length_plain (bytes : Bytes) :
    (plain bytes : List (Cell File)).length = bytes.length :=
  List.length_map _

@[simp] theorem bytesOf_plain (bytes : Bytes) : bytesOf (plain bytes : List (Cell File)) = bytes := by
  rw [bytesOf, plain, List.map_map]
  exact List.map_id bytes

@[simp] theorem bytesOf_withFile (file : File) (bytes : Bytes) :
    bytesOf (withFile file bytes) = bytes := by
  cases bytes with
  | nil => rfl
  | cons first rest => exact congrArg (first :: ·) (bytesOf_plain rest)

theorem length_bytesOf (cells : List (Cell File)) : (bytesOf cells).length = cells.length :=
  List.length_map _

theorem readAll_eq (split : Nat → Nat) (size : Nat) (stream : List (Cell File)) :
    readAll split size stream =
      if size ≤ stream.length then some (bytesOf (stream.take size), stream.drop size)
      else none := by
  induction size using Nat.strongRecOn generalizing stream with
  | _ size induction =>
      rw [readAll]
      by_cases zero : size = 0
      · simp [zero, bytesOf]
      · rw [if_neg zero, read]
        generalize isCount : min size (max 1 (split stream.length)) = count
        have taken : (bytesOf (stream.take count)).length = min count stream.length := by
          rw [length_bytesOf, List.length_take]
        cases isBytes : bytesOf (stream.take count) with
        | nil =>
            rw [isBytes, List.length_nil] at taken
            rw [if_neg (by omega)]
        | cons byte bytes =>
            rw [isBytes, List.length_cons] at taken
            dsimp only
            rw [induction _ (by omega) (stream.drop count), List.length_drop]
            by_cases enough : size ≤ stream.length
            · have isTaken : bytes.length + 1 = count := by omega
              have whole : stream.take size =
                  stream.take count ++ (stream.drop count).take (size - count) := by
                rw [← List.take_add, Nat.add_sub_cancel' (by omega)]
              have behind : stream.drop size = (stream.drop count).drop (size - count) := by
                rw [List.drop_drop, Nat.add_sub_cancel' (by omega)]
              rw [if_pos (by omega), if_pos enough, isTaken, ← isBytes, whole, behind]
              simp only [bytesOf, List.map_append]
            · rw [if_neg (by omega), if_neg enough]

theorem readAll_append (split : Nat → Nat) (cells rest : List (Cell File)) :
    readAll split cells.length (cells ++ rest) = some (bytesOf cells, rest) := by
  have enough : cells.length ≤ (cells ++ rest).length := by
    rw [List.length_append]
    exact Nat.le_add_right ..
  rw [readAll_eq, if_pos enough, List.take_left, List.drop_left]

theorem receiveAll_append (cells rest : List (Cell File)) :
    receiveAll cells.length (cells ++ rest) =
      some (bytesOf cells, cells.findSome? Cell.file, rest) := by
  have enough : cells.length ≤ (cells ++ rest).length := by
    rw [List.length_append]
    exact Nat.le_add_right ..
  rw [receiveAll, if_pos enough, List.take_left, List.drop_left]

theorem findSome?_plain (bytes : Bytes) :
    (plain bytes : List (Cell File)).findSome? Cell.file = none := by
  induction bytes with
  | nil => rfl
  | cons byte rest induction => exact induction

theorem plain_append (first second : Bytes) :
    (plain (first ++ second) : List (Cell File)) = plain first ++ plain second :=
  List.map_append

theorem withFile_append (file : File) {first : Bytes} (some : first ≠ []) (second : Bytes) :
    withFile file (first ++ second) = withFile file first ++ plain second := by
  cases first with
  | nil => exact absurd rfl some
  | cons byte rest => rw [List.cons_append, withFile, withFile, plain_append, List.cons_append]

@[simp] theorem length_withFile (file : File) (bytes : Bytes) :
    (withFile file bytes).length = bytes.length := by
  rw [← length_bytesOf, bytesOf_withFile]

theorem findSome?_withFile (file : File) {bytes : Bytes} (some : bytes ≠ []) :
    (withFile file bytes).findSome? Cell.file = Option.some file := by
  cases bytes with
  | nil => exact absurd rfl some
  | cons byte rest => rfl

end Cuttlefish.ByteStream
