import Cuttlefish.Foundation.Bytes

/-! # Little-endian integers

Fixed-width integers as they lie in memory, least significant byte first. -/

namespace Cuttlefish.LittleEndian

def encode : (width value : Nat) → Bytes
  | 0, _ => []
  | width + 1, value => UInt8.ofNat value :: encode width (value / 256)

def decode : Bytes → Nat
  | [] => 0
  | byte :: rest => byte.toNat + 256 * decode rest

/-- The number of values that fit in `width` bytes. -/
def limit : (width : Nat) → Nat
  | 0 => 1
  | width + 1 => 256 * limit width

@[simp]
theorem length_encode (width value : Nat) : (encode width value).length = width := by
  induction width generalizing value with
  | zero => rfl
  | succ width induction => simp [encode, induction]

theorem decode_encode {width value : Nat} (fits : value < limit width) :
    decode (encode width value) = value := by
  induction width generalizing value with
  | zero =>
      simp only [limit] at fits
      simp only [encode, decode]
      omega
  | succ width induction =>
      have rest : value / 256 < limit width := by
        simp only [limit] at fits
        omega
      have first : (UInt8.ofNat value).toNat = value % 256 := UInt8.toNat_ofNat'
      simp only [encode, decode, induction rest, first]
      omega

theorem decode_encode_uint16 (value : UInt16) : decode (encode 2 value.toNat) = value.toNat :=
  decode_encode value.toNat_lt

theorem decode_encode_uint64 (value : UInt64) : decode (encode 8 value.toNat) = value.toNat :=
  decode_encode value.toNat_lt

theorem decode_encode_uint32 (value : UInt32) : decode (encode 4 value.toNat) = value.toNat :=
  decode_encode value.toNat_lt

def wordAt (memory : Bytes) (position : Nat) : UInt32 :=
  UInt32.ofNat (decode (memory.readAt position 4))

theorem wordAt_field {fields : List Bytes} (index : Nat) {value : UInt32} {position : Nat}
    (found : fields[index]? = some (encode 4 value.toNat))
    (start : (fields.take index).flatten.length = position) :
    wordAt fields.flatten position = value := by
  rw [wordAt, Bytes.readAt_field index found start (length_encode 4 _), decode_encode_uint32,
    UInt32.ofNat_toNat]

/-! ## Sequences of 32-bit words -/

def encodeWords (words : List UInt32) : Bytes := words.flatMap fun word => encode 4 word.toNat

def decodeWords : Bytes → List UInt32
  | first :: second :: third :: fourth :: rest =>
      UInt32.ofNat (decode [first, second, third, fourth]) :: decodeWords rest
  | _ => []

@[simp]
theorem length_encodeWords (words : List UInt32) : (encodeWords words).length = 4 * words.length := by
  induction words with
  | nil => rfl
  | cons word rest induction =>
      rw [encodeWords, List.flatMap_cons, List.length_append, length_encode, ← encodeWords,
        induction, List.length_cons]
      omega

theorem encodeWords_append (first second : List UInt32) :
    encodeWords (first ++ second) = encodeWords first ++ encodeWords second :=
  List.flatMap_append

theorem decodeWords_encodeWords (words : List UInt32) : decodeWords (encodeWords words) = words := by
  induction words with
  | nil => rfl
  | cons word rest induction =>
      have head : decodeWords (encode 4 word.toNat ++ encodeWords rest) =
          UInt32.ofNat (decode (encode 4 word.toNat)) :: decodeWords (encodeWords rest) := rfl
      rw [encodeWords, List.flatMap_cons, ← encodeWords, head, induction, decode_encode_uint32,
        UInt32.ofNat_toNat]

end Cuttlefish.LittleEndian
