import Mathlib.Algebra.Group.Nat.Defs
import Cuttlefish.Foundation.Bytes

/-! # Generated message classes

The interface of the classes that are generated for the messages of the `.proto`
files, and the parts of the wire format that small messages need: varints, fields
that hold one, and fields that hold a message. -/

namespace Cuttlefish

/-- A generated message class. `ParseFromString` returns whether it succeeded and
leaves a message behind in both cases. -/
structure MessageCodec (Data : Type) where
  parseFromString : Bytes → Bool × Data
  serializeToString : Data → Option Bytes

namespace Protobuf

def encodeGroups : (groups : Nat) → (value : Nat) → Bytes
  | 0, _ => []
  | groups + 1, value =>
      if value < 128 then [UInt8.ofNat value]
      else UInt8.ofNat (value % 128 + 128) :: encodeGroups groups (value / 128)

def encodeVarint (value : Nat) : Bytes := encodeGroups 10 value

def decodeVarint : Bytes → Option (Nat × Bytes)
  | [] => none
  | byte :: rest =>
      if byte.toNat < 128 then some (byte.toNat, rest)
      else
        match decodeVarint rest with
        | none => none
        | some (high, rest) => some (byte.toNat - 128 + 128 * high, rest)

theorem decodeVarint_encodeGroups (rest : Bytes) :
    ∀ (groups value : Nat), value < 128 ^ (groups + 1) →
      decodeVarint (encodeGroups (groups + 1) value ++ rest) = some (value, rest)
  | 0, value, fits => by
      have small : value < 128 := by simpa using fits
      have isByte : (UInt8.ofNat value).toNat = value := Nat.mod_eq_of_lt (by omega)
      simp [encodeGroups, small, decodeVarint, isByte]
  | groups + 1, value, fits => by
      rw [encodeGroups]
      by_cases small : value < 128
      · have isByte : (UInt8.ofNat value).toNat = value := Nat.mod_eq_of_lt (by omega)
        simp [small, decodeVarint, isByte]
      · have isByte : (UInt8.ofNat (value % 128 + 128)).toNat = value % 128 + 128 :=
          Nat.mod_eq_of_lt (by omega)
        have high : value / 128 < 128 ^ (groups + 1) := by
          rw [Nat.pow_succ] at fits
          exact Nat.div_lt_of_lt_mul (by omega)
        have more : ¬ value % 128 + 128 < 128 := by omega
        simp only [small, if_false, List.cons_append, decodeVarint, isByte, more,
          decodeVarint_encodeGroups rest groups _ high]
        have sum : value % 128 + 128 - 128 + 128 * (value / 128) = value := by omega
        rw [sum]

theorem decodeVarint_encodeVarint (rest : Bytes) {value : Nat}
    (fits : value < 18446744073709551616) :
    decodeVarint (encodeVarint value ++ rest) = some (value, rest) :=
  decodeVarint_encodeGroups rest 9 value (Nat.lt_of_lt_of_le fits (by decide))

theorem length_encodeGroups_le (groups value : Nat) :
    (encodeGroups groups value).length ≤ groups := by
  induction groups generalizing value with
  | zero => exact Nat.le_refl 0
  | succ groups induction =>
      rw [encodeGroups]
      split
      · simp
      · exact Nat.succ_le_succ (induction _)

/-! ## Fields -/

def encodeNumber (tag : UInt8) (value : Nat) : Bytes :=
  if value = 0 then [] else tag :: encodeVarint value

def decodeNumber (tag : UInt8) : Bytes → Option (Nat × Bytes)
  | [] => some (0, [])
  | byte :: rest => if byte = tag then decodeVarint rest else some (0, byte :: rest)

theorem decodeNumber_encodeNumber {tag : UInt8} {rest : Bytes}
    (other : ∀ byte ∈ rest.head?, byte ≠ tag) {value : Nat}
    (fits : value < 18446744073709551616) :
    decodeNumber tag (encodeNumber tag value ++ rest) = some (value, rest) := by
  rw [encodeNumber]
  by_cases zero : value = 0
  · rw [if_pos zero, List.nil_append, zero]
    cases rest with
    | nil => rfl
    | cons byte rest => simp [decodeNumber, other byte (by simp)]
  · simp [zero, decodeNumber, decodeVarint_encodeVarint rest fits]

theorem length_encodeNumber_le (tag : UInt8) (value : Nat) :
    (encodeNumber tag value).length ≤ 11 := by
  have short := length_encodeGroups_le 10 value
  rw [encodeNumber]
  split
  · simp
  · exact Nat.succ_le_succ short

def encodeMessage (tag : UInt8) (message : Bytes) : Bytes :=
  tag :: (encodeVarint message.length ++ message)

def decodeMessage (tag : UInt8) : Bytes → Option (Bytes × Bytes)
  | [] => none
  | byte :: rest =>
      if byte = tag then
        match decodeVarint rest with
        | none => none
        | some (length, rest) =>
            if rest.length < length then none else some (rest.take length, rest.drop length)
      else none

theorem decodeMessage_encodeMessage (tag : UInt8) {message : Bytes}
    (fits : message.length < 18446744073709551616) (rest : Bytes) :
    decodeMessage tag (encodeMessage tag message ++ rest) = some (message, rest) := by
  simp only [encodeMessage, List.cons_append, List.append_assoc, decodeMessage, if_true,
    decodeVarint_encodeVarint _ fits, List.length_append]
  rw [if_neg (by omega), List.take_left, List.drop_left]

end Protobuf

end Cuttlefish
