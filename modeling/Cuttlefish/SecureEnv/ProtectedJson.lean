import Cuttlefish.Foundation.Bytes
import Cuttlefish.Foundation.LittleEndian
import Mathlib.Algebra.GroupWithZero.Nat

/-! # Protected JSON files

`WriteProtectedJsonToFile` and `ReadProtectedJsonFromFile` of `host/commands/secure_env`: a JSON
value is encrypted with a new key of the TPM, and the result is signed. A serializer tells that
it has failed by the size that it gives or by the place where it leaves the buffer. -/

namespace Cuttlefish.SecureEnv

/-! ## Libraries -/

structure Jsoncpp (Value : Type) where
  null : Value
  writeString : Value → Bytes
  parse : Bytes → Option Value
  parse_writeString : ∀ value, parse (writeString value) = some value

/-- The functions of the keymaster library that append to a buffer of some capacity, and those
that take data from the front of a buffer. -/
structure KeymasterBuffers where
  uint32 : UInt32 → Bytes
  length_uint32 : ∀ value, (uint32 value).length = 4
  appendToBuf : (capacity : Nat) → (written data : Bytes) → Bytes
  appendToBuf_eq : ∀ capacity written data, appendToBuf capacity written data =
    if written.length + data.length ≤ capacity then written ++ data else written
  copyFromBuf : Bytes → (size : Nat) → Option (Bytes × Bytes)
  copyFromBuf_append : ∀ data rest, copyFromBuf (data ++ rest) data.length = some (data, rest)
  copyUint32FromBuf : Bytes → Option (UInt32 × Bytes)
  copyUint32FromBuf_append : ∀ value rest,
    copyUint32FromBuf (uint32 value ++ rest) = some (value, rest)
  copySizeAndDataFromBuf : Bytes → Option (Bytes × Bytes)
  copySizeAndDataFromBuf_append : ∀ value data rest, data.length = value.toNat →
    copySizeAndDataFromBuf (uint32 value ++ data ++ rest) = some (data, rest)

/-- The TPM as it is below the parent key and with the signing key, which are made anew from
the same data each time. -/
structure Tpm (Key : Type) where
  publicPart : Key → Bytes
  privatePart : Key → Bytes
  publicSize : Nat
  privateSize : Nat
  length_publicPart : ∀ key, (publicPart key).length = publicSize
  length_privatePart : ∀ key, (privatePart key).length = privateSize
  publicSize_gt : 37 < publicSize
  privateSize_gt : 37 < privateSize
  unmarshalPublic : Bytes → Option (Bytes × Bytes)
  unmarshalPublic_append : ∀ key rest,
    unmarshalPublic (publicPart key ++ rest) = some (publicPart key, rest)
  unmarshalPublic_nil : unmarshalPublic [] = none
  unmarshalPrivate : Bytes → Option (Bytes × Bytes)
  unmarshalPrivate_append : ∀ key rest,
    unmarshalPrivate (privatePart key ++ rest) = some (privatePart key, rest)
  load : (publicPart privatePart : Bytes) → Option Key
  load_parts : ∀ key, load (publicPart key) (privatePart key) = some key
  encryptDecrypt : Key → (decrypt : Bool) → (iv data : Bytes) → Bytes × Bytes
  length_encrypt : ∀ key iv data, (encryptDecrypt key false iv data).1.length = data.length
  decrypt_encrypt : ∀ key iv data,
    encryptDecrypt key true iv (encryptDecrypt key false iv data).1 =
      (data, (encryptDecrypt key false iv data).2)
  hmac : Bytes → Bytes
  length_hmac : ∀ data, (hmac data).length = 32

/-! ## Encryption -/

def maxBufferSize : Nat := 1024

section

variable {Key : Type} (tpm : Tpm Key) (key : Key)

/-- `TpmEncryptDecrypt`, for at most so many rounds: a chunk after the other, where the TPM does
not fail. -/
def tpmEncryptDecrypt (decrypt : Bool) (succeeds : Nat → Bool) :
    (rounds round : Nat) → (iv data : Bytes) → Option Bytes
  | 0, _, _, _ => some []
  | rounds + 1, round, iv, data =>
      if data = [] then some []
      else if succeeds round then
        let out := tpm.encryptDecrypt key decrypt iv (data.take maxBufferSize)
        (tpmEncryptDecrypt decrypt succeeds rounds (round + 1) out.2
          (data.drop maxBufferSize)).map (out.1 ++ ·)
      else none

end

/-! ## Serializers -/

def blockSize : UInt32 := 16

def ivSize : Nat := 16

def digestSize : Nat := 32

def roundUpToBlockSize (num : UInt32) : UInt32 :=
  if num % blockSize = 0 then num else num + (blockSize - num % blockSize)

def jsonSerializedSize (text : Bytes) : Nat := text.length + 4

def encryptedSize (text : Bytes) : Nat :=
  (roundUpToBlockSize (UInt32.ofNat (jsonSerializedSize text))).toNat

section

variable (keymaster : KeymasterBuffers)

def appendSizeAndDataToBuf (capacity : Nat) (written data : Bytes) : Bytes :=
  keymaster.appendToBuf capacity
    (keymaster.appendToBuf capacity written (keymaster.uint32 (UInt32.ofNat data.length))) data

def jsonSerialize (text : Bytes) (capacity : Nat) (written : Bytes) : Bytes :=
  if capacity - written.length < text.length + 4 then written
  else appendSizeAndDataToBuf keymaster capacity written text

end

structure SizeQuery (Key : Type) where
  parent : Bool
  /-- The key that `CreateKey` makes, if none of its operations fails. -/
  created : Option Key

structure Encryption (Key : Type) extends SizeQuery Key where
  iv : Option { iv : Bytes // iv.length = ivSize }
  encrypts : (chunk : Nat) → Bool

/-- All that the TPM does during `WriteProtectedJsonToFile`. -/
structure Environment (Key : Type) where
  first : SizeQuery Key
  second : SizeQuery Key
  encryption : Encryption Key
  signs : Bool

section

variable {Key Value : Type} (tpm : Tpm Key) (keymaster : KeymasterBuffers)

/-- `EncryptedSerializable::SerializedSize`, which does not look whether there is a parent key. -/
def encryptedSerializedSize (query : SizeQuery Key) (text : Bytes) : Option Nat :=
  if query.parent = false then none
  else
    match query.created with
    | none => some 0
    | some _ =>
        some (tpm.publicSize + tpm.privateSize + 4 + 4 + ivSize + 4 + encryptedSize text)

/-- The part of `EncryptedSerializable::Serialize` that can fail, up to the encrypted data. -/
def encryptText (encryption : Encryption Key) (text : Bytes) : Option (Key × Bytes × Bytes) :=
  if encryption.parent = false then none
  else
    match encryption.created, encryption.iv with
    | some key, some iv =>
        let size := encryptedSize text
        let next := jsonSerialize keymaster text (size + 1) []
        if next.length ≠ jsonSerializedSize text then none
        else
          let unencrypted := (next ++ Bytes.zeros (size + 1 - next.length)).take size
          (tpmEncryptDecrypt tpm key false encryption.encrypts size 0 iv unencrypted).map
            fun encrypted => (key, iv.1, encrypted)
    | _, _ => none

/-- `SerializeTpmKeyPublic` and `SerializeTpmKeyPrivate` write nothing where there is no room,
as the functions of keymaster do. -/
def encryptedSerialize (encryption : Encryption Key) (text : Bytes) (capacity : Nat)
    (written : Bytes) : Bytes :=
  match encryptText tpm keymaster encryption text with
  | none => written
  | some (key, iv, encrypted) =>
      [tpm.publicPart key, tpm.privatePart key, keymaster.uint32 blockSize,
        keymaster.uint32 (UInt32.ofNat ivSize), iv,
        keymaster.uint32 (UInt32.ofNat (jsonSerializedSize text)), encrypted].foldl
        (keymaster.appendToBuf capacity) written

def hmacSerialize (environment : Environment Key) (text : Bytes) (capacity : Nat) :
    Option Bytes := do
  let wrappedSize ← encryptedSerializedSize tpm environment.second text
  let front := keymaster.appendToBuf capacity [] (keymaster.uint32 (UInt32.ofNat wrappedSize))
  let written := encryptedSerialize tpm keymaster environment.encryption text capacity front
  if written.length - front.length ≠ wrappedSize then return written
  else if environment.signs = false then return written
  else
    let digest := tpm.hmac ((written.drop front.length).take wrappedSize)
    if digest.length ≠ digestSize then return written
    else return appendSizeAndDataToBuf keymaster capacity written digest

/-! ## Files -/

inductive WriteOutcome
  | returned (success : Bool) (file : Option Bytes)
  | crashed

variable (json : Jsoncpp Value)

/-- `WriteProtectedJsonToFile`, where the file can be written. -/
def writeProtectedJsonToFile (environment : Environment Key) (value : Value)
    (file : Option Bytes) : WriteOutcome :=
  let text := json.writeString value
  match encryptedSerializedSize tpm environment.first text with
  | none => .crashed
  | some wrappedSize =>
      let size := 4 + digestSize + (4 + wrappedSize)
      match hmacSerialize tpm keymaster environment text (size + 1) with
      | none => .crashed
      | some written =>
          if written.length ≠ size then .returned false file else .returned true (some written)

def jsonDeserialize (data : Bytes) : Option Value :=
  match keymaster.copySizeAndDataFromBuf data with
  | none => none
  | some (text, rest) => if rest = [] then json.parse text else none

def encryptedDeserialize (data : Bytes) : Option Value := do
  let (publicPart, data) ← tpm.unmarshalPublic data
  let (privatePart, data) ← tpm.unmarshalPrivate data
  let key ← tpm.load publicPart privatePart
  let (block, data) ← keymaster.copyUint32FromBuf data
  if block ≠ blockSize then none
  else
    let (size, data) ← keymaster.copyUint32FromBuf data
    if size.toNat ≠ ivSize then none
    else
      let (iv, data) ← keymaster.copyFromBuf data ivSize
      let (wrappedSize, data) ← keymaster.copyUint32FromBuf data
      let size := (roundUpToBlockSize wrappedSize).toNat
      let (encrypted, _) ← keymaster.copyFromBuf data size
      let decrypted ← tpmEncryptDecrypt tpm key true (fun _ => true) size 0 iv encrypted
      jsonDeserialize keymaster json (decrypted.take wrappedSize.toNat)

def hmacDeserialize (data : Bytes) : Option Value := do
  let (signed, data) ← keymaster.copySizeAndDataFromBuf data
  let (signature, _) ← keymaster.copySizeAndDataFromBuf data
  if signature.length ≠ digestSize then none
  else if signature ≠ tpm.hmac signed then none
  else encryptedDeserialize tpm keymaster json signed

/-- `ReadProtectedJsonFromFile` with a TPM that works. -/
def readProtectedJsonFromFile (file : Option Bytes) : Value :=
  match file with
  | none => json.null
  | some content =>
      if content = [] then json.null
      else (hmacDeserialize tpm keymaster json content).getD json.null

/-- What is reported as written can be read, and otherwise the file is as it was. -/
def ReportsReadable (environment : Environment Key) (value : Value) (file : Option Bytes) : Prop :=
  match writeProtectedJsonToFile tpm keymaster json environment value file with
  | .returned true written => readProtectedJsonFromFile tpm keymaster json written = value
  | .returned false left => left = file
  | .crashed => True

end

/-! ## Sizes -/

/-- The text with the key takes less than 2 GiB, so that no counter overflows. -/
def Fits {Key : Type} (tpm : Tpm Key) (text : Bytes) : Prop :=
  tpm.publicSize + tpm.privateSize + text.length + 64 < 2 ^ 31

def sealedSize {Key : Type} (tpm : Tpm Key) (text : Bytes) : Nat :=
  tpm.publicSize + tpm.privateSize + 4 + 4 + ivSize + 4 + encryptedSize text

theorem toNat_roundUpToBlockSize {num : UInt32} (small : num.toNat + 16 ≤ 2 ^ 32) :
    num.toNat ≤ (roundUpToBlockSize num).toNat ∧
      (roundUpToBlockSize num).toNat < num.toNat + 16 ∧
        (roundUpToBlockSize num).toNat % 16 = 0 := by
  have block : blockSize.toNat = 16 := rfl
  have rest : (num % blockSize).toNat = num.toNat % 16 := by rw [UInt32.toNat_mod, block]
  have less : num.toNat % 16 < 16 := Nat.mod_lt _ (by decide)
  rw [roundUpToBlockSize]
  split
  next whole =>
    have zero : num.toNat % 16 = 0 := by
      rw [← rest, whole]
      rfl
    exact ⟨Nat.le_refl _, by omega, zero⟩
  next partial_ =>
    have positive : 0 < num.toNat % 16 := by
      refine Nat.pos_of_ne_zero fun zero => partial_ (UInt32.toNat_inj.mp ?_)
      rw [rest, zero]
      rfl
    have le : num % blockSize ≤ blockSize := by
      rw [UInt32.le_iff_toNat_le, rest, block]
      omega
    have added : (blockSize - num % blockSize).toNat = 16 - num.toNat % 16 := by
      rw [UInt32.toNat_sub_of_le _ _ le, rest, block]
    have total : (num + (blockSize - num % blockSize)).toNat =
        num.toNat + (16 - num.toNat % 16) := by
      rw [UInt32.toNat_add, added]
      omega
    rw [total]
    omega

section

variable {Key Value : Type} {tpm : Tpm Key} {text : Bytes}

theorem Fits.toNat_jsonSerializedSize (fits : Fits tpm text) :
    (UInt32.ofNat (jsonSerializedSize text)).toNat = text.length + 4 := by
  rw [Fits] at fits
  rw [jsonSerializedSize]
  rw [UInt32.toNat_ofNat']
  omega

theorem Fits.encryptedSize_bounds (fits : Fits tpm text) :
    text.length + 4 ≤ encryptedSize text ∧ encryptedSize text < text.length + 20 ∧
      encryptedSize text % 16 = 0 := by
  have isSize := fits.toNat_jsonSerializedSize
  have small : (UInt32.ofNat (jsonSerializedSize text)).toNat + 16 ≤ 2 ^ 32 := by
    rw [Fits] at fits
    omega
  have rounded := toNat_roundUpToBlockSize small
  rw [encryptedSize]
  omega

/-! ## Chunks -/

variable {key : Key} {succeeds : Nat → Bool}

theorem tpmEncryptDecrypt_eq_none_iff (decrypt : Bool) {rounds round : Nat} {iv data : Bytes}
    (enough : data.length ≤ rounds) :
    tpmEncryptDecrypt tpm key decrypt succeeds rounds round iv data = none ↔
      ∃ chunk, chunk * maxBufferSize < data.length ∧ succeeds (round + chunk) = false := by
  induction rounds generalizing round iv data with
  | zero =>
      rcases List.eq_nil_of_length_eq_zero (Nat.le_zero.mp enough) with rfl
      refine ⟨fun isNone => (nomatch isNone), ?_⟩
      rintro ⟨chunk, less, -⟩
      exact absurd less (Nat.not_lt_zero _)
  | succ rounds induction =>
      have rest : (data.drop maxBufferSize).length = data.length - maxBufferSize := List.length_drop
      rw [tpmEncryptDecrypt]
      by_cases empty : data = []
      · rw [if_pos empty]
        refine ⟨fun isNone => (nomatch isNone), ?_⟩
        rintro ⟨chunk, less, -⟩
        rw [empty] at less
        exact absurd less (Nat.not_lt_zero _)
      · have positive := List.length_pos_iff.mpr empty
        have shorter : (data.drop maxBufferSize).length ≤ rounds := by
          rw [rest]
          rw [maxBufferSize]
          omega
        rw [if_neg empty]
        cases now : succeeds round with
        | false =>
            rw [if_neg Bool.false_ne_true]
            refine ⟨fun _ => ⟨0, ?_, now⟩, fun _ => rfl⟩
            rwa [Nat.zero_mul]
        | true =>
            rw [if_pos rfl, Option.map_eq_none_iff, induction shorter, rest]
            constructor
            · rintro ⟨chunk, less, fails⟩
              refine ⟨chunk + 1, ?_, ?_⟩
              · rw [Nat.succ_mul]
                exact Nat.lt_sub_iff_add_lt.mp less
              · rwa [Nat.add_right_comm] at fails
            · rintro ⟨chunk, less, fails⟩
              cases chunk with
              | zero =>
                  rw [Nat.add_zero, now] at fails
                  exact nomatch fails
              | succ chunk =>
                  refine ⟨chunk, ?_, ?_⟩
                  · rw [Nat.succ_mul] at less
                    exact Nat.lt_sub_iff_add_lt.mpr less
                  · rwa [Nat.add_right_comm]

theorem tpmEncryptDecrypt_decrypts {rounds round : Nat} {iv data encrypted : Bytes} (other : Nat)
    (enough : data.length ≤ rounds)
    (done : tpmEncryptDecrypt tpm key false succeeds rounds round iv data = some encrypted) :
    encrypted.length = data.length ∧
      tpmEncryptDecrypt tpm key true (fun _ => true) rounds other iv encrypted = some data := by
  induction rounds generalizing round other iv data encrypted with
  | zero =>
      rcases List.eq_nil_of_length_eq_zero (Nat.le_zero.mp enough) with rfl
      rcases Option.some.inj done with rfl
      exact ⟨rfl, rfl⟩
  | succ rounds induction =>
      rw [tpmEncryptDecrypt] at done
      by_cases empty : data = []
      · rw [if_pos empty] at done
        rcases Option.some.inj done with rfl
        exact ⟨congrArg List.length empty.symm, congrArg some empty.symm⟩
      · rw [if_neg empty] at done
        split at done
        next =>
          rcases Option.map_eq_some_iff.mp done with ⟨rest, isRest, rfl⟩
          have positive := List.length_pos_iff.mpr empty
          have first := tpm.length_encrypt key iv (data.take maxBufferSize)
          have inverse := tpm.decrypt_encrypt key iv (data.take maxBufferSize)
          have shorter : (data.drop maxBufferSize).length ≤ rounds := by
            rw [List.length_drop]
            rw [maxBufferSize]
            omega
          rcases induction (other + 1) shorter isRest with ⟨restLength, restData⟩
          generalize tpm.encryptDecrypt key false iv (data.take maxBufferSize) = out
            at first inverse isRest restData
          rw [List.length_take] at first
          rw [List.length_drop] at restLength
          have split : (out.1 ++ rest).take maxBufferSize = out.1 ∧
              (out.1 ++ rest).drop maxBufferSize = rest := by
            rcases Nat.le_total maxBufferSize data.length with whole | last
            · rw [Nat.min_eq_left whole] at first
              exact ⟨List.take_left' first, List.drop_left' first⟩
            · rw [Nat.min_eq_right last] at first
              obtain rfl : rest = [] := List.eq_nil_of_length_eq_zero (by omega)
              rw [List.append_nil]
              exact ⟨List.take_of_length_le (by omega), List.drop_eq_nil_of_le (by omega)⟩
          have total : (out.1 ++ rest).length = data.length := by
            rw [List.length_append]
            omega
          have nonempty : out.1 ++ rest ≠ [] := fun none => by
            rw [none, List.length_nil] at total
            omega
          refine ⟨total, ?_⟩
          rw [tpmEncryptDecrypt, if_neg nonempty, if_pos rfl, split.1, split.2, inverse]
          dsimp only
          rw [restData]
          exact congrArg some (List.take_append_drop maxBufferSize data)
        next => exact nomatch done

/-! ## The encrypted text -/

def Encryption.Fails (encryption : Encryption Key) (text : Bytes) : Prop :=
  encryption.parent = false ∨ encryption.created = none ∨ encryption.iv = none ∨
    ∃ chunk, chunk * maxBufferSize < encryptedSize text ∧ encryption.encrypts chunk = false

def sizedText (keymaster : KeymasterBuffers) (text : Bytes) : Bytes :=
  keymaster.uint32 (UInt32.ofNat text.length) ++ text

variable {keymaster : KeymasterBuffers} {encryption : Encryption Key}

theorem length_sizedText (keymaster : KeymasterBuffers) (text : Bytes) :
    (sizedText keymaster text).length = text.length + 4 := by
  rw [sizedText, List.length_append, keymaster.length_uint32, Nat.add_comm]

theorem appendSizeAndDataToBuf_eq {capacity : Nat} {written data : Bytes}
    (room : written.length + 4 + data.length ≤ capacity) :
    appendSizeAndDataToBuf keymaster capacity written data =
      written ++ sizedText keymaster data := by
  have size := keymaster.length_uint32 (UInt32.ofNat data.length)
  rw [appendSizeAndDataToBuf, keymaster.appendToBuf_eq _ written, if_pos (by omega),
    keymaster.appendToBuf_eq, if_pos (by rw [List.length_append, size]; exact room),
    List.append_assoc, sizedText]

theorem jsonSerialize_eq {capacity : Nat} (room : text.length + 4 ≤ capacity) :
    jsonSerialize keymaster text capacity [] = sizedText keymaster text := by
  rw [jsonSerialize, List.length_nil, if_neg (by omega), appendSizeAndDataToBuf_eq]
  · rfl
  · rw [List.length_nil]
    omega

def paddedText (keymaster : KeymasterBuffers) (text : Bytes) : Bytes :=
  (sizedText keymaster text ++ Bytes.zeros (encryptedSize text + 1 - (text.length + 4))).take
    (encryptedSize text)

theorem Fits.length_paddedText (fits : Fits tpm text) :
    (paddedText keymaster text).length = encryptedSize text := by
  have size := fits.encryptedSize_bounds
  rw [paddedText, List.length_take, List.length_append, length_sizedText, Bytes.length_zeros]
  omega

theorem Fits.take_paddedText (fits : Fits tpm text) :
    (paddedText keymaster text).take (text.length + 4) = sizedText keymaster text := by
  have size := fits.encryptedSize_bounds
  rw [paddedText, List.take_take, Nat.min_eq_left size.1]
  exact List.take_left' (length_sizedText keymaster text)

theorem Fits.encryptText_eq (fits : Fits tpm text) :
    encryptText tpm keymaster encryption text =
      if encryption.parent = false then none
      else
        match encryption.created, encryption.iv with
        | some key, some iv =>
            (tpmEncryptDecrypt tpm key false encryption.encrypts (encryptedSize text) 0 iv
              (paddedText keymaster text)).map fun encrypted => (key, iv.1, encrypted)
        | _, _ => none := by
  have size := fits.encryptedSize_bounds
  have next : jsonSerialize keymaster text (encryptedSize text + 1) [] =
      sizedText keymaster text := jsonSerialize_eq (by omega)
  have same : (sizedText keymaster text).length = jsonSerializedSize text :=
    length_sizedText keymaster text
  rw [encryptText]
  simp only [next, same, ne_eq, not_true_eq_false, if_false]
  rfl

theorem Fits.encryptText_eq_none_iff (fits : Fits tpm text) :
    encryptText tpm keymaster encryption text = none ↔ encryption.Fails text := by
  rw [fits.encryptText_eq]
  rw [Encryption.Fails]
  cases parent : encryption.parent with
  | false => exact ⟨fun _ => .inl rfl, fun _ => rfl⟩
  | true =>
      rw [if_neg Bool.true_eq_false.mp]
      cases created : encryption.created with
      | none => exact ⟨fun _ => .inr (.inl rfl), fun _ => rfl⟩
      | some key =>
          cases random : encryption.iv with
          | none => exact ⟨fun _ => .inr (.inr (.inl rfl)), fun _ => rfl⟩
          | some iv =>
              dsimp only
              rw [Option.map_eq_none_iff, tpmEncryptDecrypt_eq_none_iff false
                (Nat.le_of_eq fits.length_paddedText), fits.length_paddedText]
              simp only [Bool.true_eq_false, reduceCtorEq, false_or, Nat.zero_add]

theorem Fits.encryptText_decrypts (fits : Fits tpm text) {iv encrypted : Bytes}
    (done : encryptText tpm keymaster encryption text = some (key, iv, encrypted)) :
    iv.length = ivSize ∧ encrypted.length = encryptedSize text ∧
      tpmEncryptDecrypt tpm key true (fun _ => true) (encryptedSize text) 0 iv encrypted =
        some (paddedText keymaster text) := by
  rw [fits.encryptText_eq] at done
  split at done
  next => exact nomatch done
  next =>
    split at done
    next other random _ _ =>
      rcases Option.map_eq_some_iff.mp done with ⟨out, isOut, same⟩
      obtain ⟨rfl, rfl, rfl⟩ : other = key ∧ random.1 = iv ∧ out = encrypted := by
        simpa only [Prod.mk.injEq] using same
      have decrypts := tpmEncryptDecrypt_decrypts 0 (Nat.le_of_eq fits.length_paddedText) isOut
      exact ⟨random.2, decrypts.1.trans fits.length_paddedText, decrypts.2⟩
    next => exact nomatch done

/-! ## The encrypted file -/

variable {json : Jsoncpp Value} {iv encrypted : Bytes}

def sealedParts (tpm : Tpm Key) (keymaster : KeymasterBuffers) (text : Bytes) (key : Key)
    (iv encrypted : Bytes) : List Bytes :=
  [tpm.publicPart key, tpm.privatePart key, keymaster.uint32 blockSize,
    keymaster.uint32 (UInt32.ofNat ivSize), iv,
    keymaster.uint32 (UInt32.ofNat (jsonSerializedSize text)), encrypted]

theorem length_sealedParts (tpm : Tpm Key) (keymaster : KeymasterBuffers) (key : Key)
    (isIv : iv.length = ivSize)
    (isEncrypted : encrypted.length = encryptedSize text) :
    (sealedParts tpm keymaster text key iv encrypted).flatten.length = sealedSize tpm text := by
  simp only [sealedParts, List.flatten_cons, List.flatten_nil, List.length_append,
    List.length_nil, tpm.length_publicPart, tpm.length_privatePart, keymaster.length_uint32,
    isIv, isEncrypted, sealedSize]
  omega

theorem foldl_appendToBuf {capacity : Nat} {written : Bytes} (parts : List Bytes)
    (room : written.length + parts.flatten.length ≤ capacity) :
    parts.foldl (keymaster.appendToBuf capacity) written = written ++ parts.flatten := by
  induction parts generalizing written with
  | nil => exact (List.append_nil written).symm
  | cons part parts induction =>
      rw [List.flatten_cons, List.length_append] at room
      rw [List.foldl_cons, keymaster.appendToBuf_eq, if_pos (by omega), induction,
        List.flatten_cons, List.append_assoc]
      rw [List.length_append]
      omega

theorem Fits.encryptedSerialize_eq (fits : Fits tpm text) {capacity : Nat} {written : Bytes}
    (done : encryptText tpm keymaster encryption text = some (key, iv, encrypted))
    (room : written.length + sealedSize tpm text ≤ capacity) :
    encryptedSerialize tpm keymaster encryption text capacity written =
      written ++ (sealedParts tpm keymaster text key iv encrypted).flatten := by
  rcases fits.encryptText_decrypts done with ⟨isIv, isEncrypted, -⟩
  rw [encryptedSerialize, done]
  refine foldl_appendToBuf (sealedParts tpm keymaster text key iv encrypted) ?_
  rwa [length_sealedParts tpm keymaster key isIv isEncrypted]

theorem length_foldl_appendToBuf (capacity : Nat) (written : Bytes) (parts : List Bytes) :
    (parts.foldl (keymaster.appendToBuf capacity) written).length =
      (parts.map List.length).foldl (fun length part =>
        if length + part ≤ capacity then length + part else length) written.length := by
  induction parts generalizing written with
  | nil => rfl
  | cons part parts induction =>
      rw [List.foldl_cons, induction, List.map_cons, List.foldl_cons, keymaster.appendToBuf_eq]
      congr 1
      split
      · exact List.length_append
      · rfl

theorem Fits.length_encryptedSerialize_short (fits : Fits tpm text) {written : Bytes}
    (done : encryptText tpm keymaster encryption text = some (key, iv, encrypted))
    (isWritten : written.length = 4) :
    (encryptedSerialize tpm keymaster encryption text 41 written).length = 32 := by
  rcases fits.encryptText_decrypts done with ⟨isIv, isEncrypted, -⟩
  have publicSize := tpm.publicSize_gt
  have privateSize := tpm.privateSize_gt
  have size := fits.encryptedSize_bounds
  rw [encryptedSerialize, done]
  dsimp only
  rw [length_foldl_appendToBuf, isWritten]
  simp only [List.map_cons, List.map_nil, List.foldl_cons, List.foldl_nil, tpm.length_publicPart,
    tpm.length_privatePart, keymaster.length_uint32, isIv, isEncrypted, ivSize]
  rw [if_neg (by omega : ¬ 4 + tpm.publicSize ≤ 41), if_neg (by omega : ¬ 4 + tpm.privateSize ≤ 41)]
  exact if_neg (by omega : ¬ 32 + encryptedSize text ≤ 41)

/-! ## Reading -/

theorem jsonDeserialize_sizedText (small : text.length < 2 ^ 32) :
    jsonDeserialize keymaster json (sizedText keymaster text) = json.parse text := by
  have isSize : text.length = (UInt32.ofNat text.length).toNat := by
    rw [UInt32.toNat_ofNat', Nat.mod_eq_of_lt small]
  have split := keymaster.copySizeAndDataFromBuf_append (UInt32.ofNat text.length) text [] isSize
  rw [List.append_nil] at split
  rw [jsonDeserialize, sizedText, split]
  rfl

theorem Fits.encryptedDeserialize_eq (fits : Fits tpm text)
    (done : encryptText tpm keymaster encryption text = some (key, iv, encrypted)) :
    encryptedDeserialize tpm keymaster json
      (sealedParts tpm keymaster text key iv encrypted).flatten = json.parse text := by
  rcases fits.encryptText_decrypts done with ⟨isIv, isEncrypted, decrypts⟩
  have isSize := fits.toNat_jsonSerializedSize
  have smallText : text.length < 2 ^ 32 := by
    rw [Fits] at fits
    omega
  have rounded : (roundUpToBlockSize (UInt32.ofNat (jsonSerializedSize text))).toNat =
      encryptedSize text := rfl
  have copied := keymaster.copyFromBuf_append encrypted []
  rw [List.append_nil] at copied
  have ivRead (rest : Bytes) : keymaster.copyFromBuf (iv ++ rest) ivSize = some (iv, rest) := by
    rw [← isIv]
    exact keymaster.copyFromBuf_append iv rest
  rw [isEncrypted] at copied
  simp only [sealedParts, List.flatten_cons, List.flatten_nil, List.append_nil,
    encryptedDeserialize, tpm.unmarshalPublic_append, tpm.unmarshalPrivate_append, tpm.load_parts,
    keymaster.copyUint32FromBuf_append, Option.bind_eq_bind, Option.bind_some]
  have ivBytes : (UInt32.ofNat ivSize).toNat = ivSize := rfl
  rw [if_neg (not_not_intro rfl), if_neg (not_not_intro ivBytes), ivRead]
  simp only [keymaster.copyUint32FromBuf_append, Option.bind_some, rounded, copied, decrypts,
    isSize, fits.take_paddedText, jsonDeserialize_sizedText smallText]

theorem hmacDeserialize_eq {signed : Bytes} (small : signed.length < 2 ^ 32) :
    hmacDeserialize tpm keymaster json
        (sizedText keymaster signed ++ sizedText keymaster (tpm.hmac signed)) =
      encryptedDeserialize tpm keymaster json signed := by
  have signedSize : signed.length = (UInt32.ofNat signed.length).toNat := by
    rw [UInt32.toNat_ofNat', Nat.mod_eq_of_lt small]
  have digest : (tpm.hmac signed).length = digestSize := tpm.length_hmac signed
  have digestLength : (tpm.hmac signed).length =
      (UInt32.ofNat (tpm.hmac signed).length).toNat := by
    rw [digest]
    rfl
  have first := keymaster.copySizeAndDataFromBuf_append _ signed
    (sizedText keymaster (tpm.hmac signed)) signedSize
  have second := keymaster.copySizeAndDataFromBuf_append _ (tpm.hmac signed) [] digestLength
  rw [List.append_nil] at second
  simp only [hmacDeserialize, sizedText] at first ⊢
  simp only [first, second, Option.bind_eq_bind, Option.bind_some]
  rw [if_neg (not_not_intro digest), if_neg (not_not_intro rfl)]

/-! ## Writing -/

variable {environment : Environment Key} {capacity wrappedSize : Nat}

theorem hmacSerialize_eq (room : 4 ≤ capacity)
    (isSize : encryptedSerializedSize tpm environment.second text = some wrappedSize) :
    hmacSerialize tpm keymaster environment text capacity =
      let written := encryptedSerialize tpm keymaster environment.encryption text capacity
        (keymaster.uint32 (UInt32.ofNat wrappedSize))
      some (if written.length - 4 ≠ wrappedSize ∨ environment.signs = false then written
        else appendSizeAndDataToBuf keymaster capacity written
          (tpm.hmac ((written.drop 4).take wrappedSize))) := by
  have front : keymaster.appendToBuf capacity [] (keymaster.uint32 (UInt32.ofNat wrappedSize)) =
      keymaster.uint32 (UInt32.ofNat wrappedSize) := by
    rw [keymaster.appendToBuf_eq, keymaster.length_uint32, if_pos (by simpa using room)]
    rfl
  have digest (data : Bytes) : ¬ (tpm.hmac data).length ≠ digestSize :=
    not_not_intro (tpm.length_hmac data)
  rw [hmacSerialize, isSize]
  dsimp only [Option.bind_eq_bind, Option.bind_some]
  rw [front, keymaster.length_uint32]
  by_cases mismatch : (encryptedSerialize tpm keymaster environment.encryption text capacity
      (keymaster.uint32 (UInt32.ofNat wrappedSize))).length - 4 ≠ wrappedSize
  · rw [if_pos mismatch, if_pos (.inl mismatch)]
    rfl
  · rw [if_neg mismatch]
    by_cases unsigned : environment.signs = false
    · rw [if_pos unsigned, if_pos (.inr unsigned)]
      rfl
    · rw [if_neg unsigned, if_neg (digest _), if_neg (not_or.mpr ⟨mismatch, unsigned⟩)]
      rfl

theorem hmacSerialize_of_fails (room : 41 ≤ capacity)
    (isSize : encryptedSerializedSize tpm environment.second text = some wrappedSize)
    (fails : encryptText tpm keymaster environment.encryption text = none) :
    hmacSerialize tpm keymaster environment text capacity =
      some (if wrappedSize ≠ 0 ∨ environment.signs = false then
          keymaster.uint32 (UInt32.ofNat wrappedSize)
        else sizedText keymaster [] ++ sizedText keymaster (tpm.hmac [])) := by
  have uint32 := keymaster.length_uint32 (UInt32.ofNat wrappedSize)
  rw [hmacSerialize_eq (by omega) isSize]
  dsimp only
  rw [encryptedSerialize, fails]
  dsimp only
  rw [uint32, Nat.sub_self]
  by_cases stops : wrappedSize ≠ 0 ∨ environment.signs = false
  · rw [if_pos stops, if_pos (stops.imp_left Ne.symm)]
  · rcases not_or.mp stops with ⟨zero, -⟩
    rcases Decidable.not_not.mp zero with rfl
    have nothing : sizedText keymaster [] = keymaster.uint32 (UInt32.ofNat 0) :=
      List.append_nil _
    rw [if_neg stops, if_neg fun other => stops (other.imp_left Ne.symm), List.take_zero,
      appendSizeAndDataToBuf_eq (by rw [uint32, tpm.length_hmac]; omega), nothing]

theorem encryptedSerializedSize_cases {query : SizeQuery Key}
    (isSize : encryptedSerializedSize tpm query text = some wrappedSize) :
    wrappedSize = 0 ∧ query.parent = true ∧ query.created = none ∨
      wrappedSize = sealedSize tpm text ∧ query.created ≠ none := by
  rw [encryptedSerializedSize] at isSize
  split at isSize
  next => exact nomatch isSize
  next parent =>
    split at isSize
    next created =>
      exact .inl ⟨(Option.some.inj isSize).symm, Bool.not_eq_false _ ▸ parent, created⟩
    next key created =>
      exact .inr ⟨(Option.some.inj isSize).symm, fun none => nomatch created.symm.trans none⟩

theorem sealedSize_pos (tpm : Tpm Key) (text : Bytes) : 37 < sealedSize tpm text := by
  have publicSize := tpm.publicSize_gt
  rw [sealedSize]
  omega

theorem Fits.hmacSerialize_short (fits : Fits tpm text)
    (isSize : encryptedSerializedSize tpm environment.second text = some wrappedSize)
    (done : encryptText tpm keymaster environment.encryption text = some (key, iv, encrypted)) :
    ∃ written, hmacSerialize tpm keymaster environment text 41 = some written ∧
      written.length = 32 := by
  have short := fits.length_encryptedSerialize_short done
    (keymaster.length_uint32 (UInt32.ofNat wrappedSize))
  have positive := sealedSize_pos tpm text
  have mismatch : 32 - 4 ≠ wrappedSize := by
    rcases encryptedSerializedSize_cases isSize with ⟨rfl, -⟩ | ⟨rfl, -⟩
    · decide
    · omega
  rw [hmacSerialize_eq (by decide) isSize]
  dsimp only
  rw [short, if_pos (.inl mismatch)]
  exact ⟨_, rfl, short⟩

theorem Fits.hmacSerialize_roomy (fits : Fits tpm text)
    (isSize : encryptedSerializedSize tpm environment.second text = some wrappedSize)
    (done : encryptText tpm keymaster environment.encryption text = some (key, iv, encrypted)) :
    let content := (sealedParts tpm keymaster text key iv encrypted).flatten
    hmacSerialize tpm keymaster environment text (sealedSize tpm text + 41) =
      some (if wrappedSize ≠ sealedSize tpm text ∨ environment.signs = false then
          keymaster.uint32 (UInt32.ofNat wrappedSize) ++ content
        else sizedText keymaster content ++ sizedText keymaster (tpm.hmac content)) := by
  intro content
  rcases fits.encryptText_decrypts done with ⟨isIv, isEncrypted, -⟩
  have uint32 := keymaster.length_uint32 (UInt32.ofNat wrappedSize)
  have isContent : content.length = sealedSize tpm text := length_sealedParts tpm keymaster key isIv isEncrypted
  have total : (keymaster.uint32 (UInt32.ofNat wrappedSize) ++ content).length =
      4 + sealedSize tpm text := by rw [List.length_append, uint32, isContent]
  rw [hmacSerialize_eq (by omega) isSize]
  dsimp only
  rw [fits.encryptedSerialize_eq done (by rw [uint32]; omega), total, Nat.add_sub_cancel_left]
  by_cases stops : wrappedSize ≠ sealedSize tpm text ∨ environment.signs = false
  · rw [if_pos stops, if_pos (stops.imp_left Ne.symm)]
  · rcases not_or.mp stops with ⟨same, -⟩
    rcases Decidable.not_not.mp same with rfl
    have signed : ((keymaster.uint32 (UInt32.ofNat (sealedSize tpm text)) ++ content).drop 4).take
        (sealedSize tpm text) = content := by
      rw [List.drop_left' uint32, List.take_of_length_le (Nat.le_of_eq isContent)]
    rw [if_neg stops, if_neg fun other => stops (other.imp_left Ne.symm), signed,
      appendSizeAndDataToBuf_eq (by rw [total, tpm.length_hmac]; omega), ← isContent]
    rfl

/-- The TPM fails each time that the encryption uses it, and signs in the end. -/
structure Environment.LooksComplete (environment : Environment Key) (text : Bytes) : Prop where
  first : environment.first.parent = true ∧ environment.first.created = none
  second : environment.second.parent = true ∧ environment.second.created = none
  encryption : environment.encryption.Fails text
  signs : environment.signs = true

theorem Fits.looksComplete_iff (fits : Fits tpm text) (keymaster : KeymasterBuffers) :
    environment.LooksComplete text ↔
      encryptedSerializedSize tpm environment.first text = some 0 ∧
        encryptedSerializedSize tpm environment.second text = some 0 ∧
          encryptText tpm keymaster environment.encryption text = none ∧
            environment.signs = true := by
  have zero (query : SizeQuery Key) : encryptedSerializedSize tpm query text = some 0 ↔
      query.parent = true ∧ query.created = none := by
    constructor
    · intro isSize
      rcases encryptedSerializedSize_cases isSize with ⟨-, unavailable⟩ | ⟨size, -⟩
      · exact unavailable
      · have positive := sealedSize_pos tpm text
        omega
    · rintro ⟨parent, created⟩
      rw [encryptedSerializedSize, parent, created]
      rfl
  rw [zero, zero, fits.encryptText_eq_none_iff]
  constructor
  · rintro ⟨first, second, fails, signs⟩
    exact ⟨first, second, fails, signs⟩
  · rintro ⟨first, second, fails, signs⟩
    exact ⟨first, second, fails, signs⟩

theorem readProtectedJsonFromFile_nothing :
    readProtectedJsonFromFile tpm keymaster json
      (some (sizedText keymaster [] ++ sizedText keymaster (tpm.hmac []))) = json.null := by
  have nothing : encryptedDeserialize tpm keymaster json [] = none := by
    rw [encryptedDeserialize, tpm.unmarshalPublic_nil]
    rfl
  rw [readProtectedJsonFromFile, hmacDeserialize_eq (by decide), nothing]
  split
  · rfl
  · rfl

theorem Fits.readProtectedJsonFromFile_eq {value : Value}
    (fits : Fits tpm (json.writeString value))
    (done : encryptText tpm keymaster encryption (json.writeString value) =
      some (key, iv, encrypted)) :
    let content := (sealedParts tpm keymaster (json.writeString value) key iv encrypted).flatten
    readProtectedJsonFromFile tpm keymaster json
      (some (sizedText keymaster content ++ sizedText keymaster (tpm.hmac content))) = value := by
  intro content
  rcases fits.encryptText_decrypts done with ⟨isIv, isEncrypted, -⟩
  have isContent : content.length = sealedSize tpm (json.writeString value) :=
    length_sealedParts tpm keymaster key isIv isEncrypted
  have small : content.length < 2 ^ 32 := by
    have size := fits.encryptedSize_bounds
    rw [Fits] at fits
    rw [isContent]
    rw [sealedSize, ivSize]
    omega
  have nonempty : sizedText keymaster content ++ sizedText keymaster (tpm.hmac content) ≠ [] :=
    fun none => by
      have length := congrArg List.length none
      rw [List.length_append, length_sizedText, List.length_nil] at length
      omega
  rw [readProtectedJsonFromFile, if_neg nonempty, hmacDeserialize_eq small, fits.encryptedDeserialize_eq done,
    json.parse_writeString, Option.getD_some]

variable {value : Value} {file : Option Bytes}

theorem reportsReadable_of_written {written : Bytes}
    (first : encryptedSerializedSize tpm environment.first (json.writeString value) =
      some wrappedSize)
    (isWritten : hmacSerialize tpm keymaster environment (json.writeString value)
      (wrappedSize + 41) = some written) :
    ReportsReadable tpm keymaster json environment value file ↔
      (written.length = wrappedSize + 40 →
        readProtectedJsonFromFile tpm keymaster json (some written) = value) := by
  have size : 4 + digestSize + (4 + wrappedSize) = wrappedSize + 40 := by
    rw [digestSize]
    omega
  have outcome : writeProtectedJsonToFile tpm keymaster json environment value file =
      if written.length ≠ wrappedSize + 40 then .returned false file
      else .returned true (some written) := by
    rw [writeProtectedJsonToFile]
    dsimp only
    rw [first]
    dsimp only
    rw [size, isWritten]
  rw [ReportsReadable, outcome]
  by_cases complete : written.length = wrappedSize + 40
  · rw [if_neg (not_not_intro complete)]
    exact ⟨fun readable _ => readable, fun readable => readable complete⟩
  · rw [if_pos complete]
    exact ⟨fun _ other => absurd other complete, fun _ => rfl⟩

theorem reportsReadable_of_crash
    (crash : encryptedSerializedSize tpm environment.first (json.writeString value) = none ∨
      encryptedSerializedSize tpm environment.second (json.writeString value) = none) :
    ReportsReadable tpm keymaster json environment value file := by
  have outcome : writeProtectedJsonToFile tpm keymaster json environment value file =
      .crashed := by
    rw [writeProtectedJsonToFile]
    dsimp only
    cases first : encryptedSerializedSize tpm environment.first (json.writeString value) with
    | none => rfl
    | some _ =>
        rw [first] at crash
        have second := crash.resolve_left (Option.some_ne_none _)
        dsimp only
        rw [hmacSerialize, second]
        rfl
  rw [ReportsReadable, outcome]
  trivial

theorem reportsReadable_of_fails {secondSize : Nat}
    (first : encryptedSerializedSize tpm environment.first (json.writeString value) =
      some wrappedSize)
    (second : encryptedSerializedSize tpm environment.second (json.writeString value) =
      some secondSize)
    (fails : encryptText tpm keymaster environment.encryption (json.writeString value) = none) :
    ReportsReadable tpm keymaster json environment value file ↔
      (wrappedSize = 0 ∧ secondSize = 0 ∧ environment.signs = true → json.null = value) := by
  rw [reportsReadable_of_written first (hmacSerialize_of_fails (Nat.le_add_left ..) second fails)]
  by_cases stops : secondSize ≠ 0 ∨ environment.signs = false
  · rw [if_pos stops, keymaster.length_uint32]
    refine ⟨fun _ looks => ?_, fun _ short => absurd short (by omega)⟩
    rcases stops with nonzero | unsigned
    · exact absurd looks.2.1 nonzero
    · exact nomatch unsigned.symm.trans looks.2.2
  · rcases not_or.mp stops with ⟨zero, signs⟩
    have signed := Bool.not_eq_false _ ▸ signs
    rw [if_neg stops, List.length_append, length_sizedText, length_sizedText, tpm.length_hmac,
      List.length_nil, readProtectedJsonFromFile_nothing]
    constructor
    · exact fun readable looks => readable (by omega)
    · exact fun readable complete => readable ⟨by omega, Decidable.not_not.mp zero, signed⟩

theorem Fits.reportsReadable_of_encrypted (fits : Fits tpm (json.writeString value))
    {secondSize : Nat}
    (first : encryptedSerializedSize tpm environment.first (json.writeString value) =
      some wrappedSize)
    (second : encryptedSerializedSize tpm environment.second (json.writeString value) =
      some secondSize)
    (done : encryptText tpm keymaster environment.encryption (json.writeString value) =
      some (key, iv, encrypted)) :
    ReportsReadable tpm keymaster json environment value file := by
  rcases encryptedSerializedSize_cases first with ⟨rfl, -⟩ | ⟨rfl, -⟩
  · rcases fits.hmacSerialize_short second done with ⟨written, isWritten, isLength⟩
    rw [reportsReadable_of_written first isWritten, isLength]
    exact fun complete => absurd complete (by decide)
  · rcases fits.encryptText_decrypts done with ⟨isIv, isEncrypted, -⟩
    have content := length_sealedParts tpm keymaster key isIv isEncrypted
    rw [reportsReadable_of_written first (fits.hmacSerialize_roomy second done)]
    split
    · rw [List.length_append, keymaster.length_uint32]
      exact fun complete => by omega
    · exact fun _ => fits.readProtectedJsonFromFile_eq done

end

/-- A value that is reported as written can be read, and a file that is not written is left
alone, exactly if the TPM does not fail at each point of the encryption and sign nevertheless.
The value `null` is what is read then. -/
theorem protected_json_readable_iff {Key Value : Type} (tpm : Tpm Key)
    (keymaster : KeymasterBuffers) (json : Jsoncpp Value) (environment : Environment Key)
    (value : Value) (file : Option Bytes) (fits : Fits tpm (json.writeString value)) :
    ReportsReadable tpm keymaster json environment value file ↔
      ¬ (environment.LooksComplete (json.writeString value) ∧ value ≠ json.null) := by
  rw [fits.looksComplete_iff keymaster]
  cases first : encryptedSerializedSize tpm environment.first (json.writeString value) with
  | none =>
      exact ⟨fun _ looks => (nomatch looks.1.1), fun _ => reportsReadable_of_crash (.inl first)⟩
  | some firstSize =>
      cases second : encryptedSerializedSize tpm environment.second (json.writeString value) with
      | none =>
          exact ⟨fun _ looks => (nomatch looks.1.2.1),
            fun _ => reportsReadable_of_crash (.inr second)⟩
      | some secondSize =>
          cases encrypted : encryptText tpm keymaster environment.encryption
              (json.writeString value) with
          | none =>
              rw [reportsReadable_of_fails first second encrypted]
              simp only [Option.some.injEq, true_and]
              constructor
              · rintro readable ⟨looks, notNull⟩
                exact notNull (readable looks).symm
              · intro notBoth looks
                by_cases isNull : value = json.null
                · exact isNull.symm
                · exact absurd ⟨looks, isNull⟩ notBoth
          | some done =>
              rcases done with ⟨key, iv, content⟩
              exact ⟨fun _ looks => (nomatch looks.1.2.2.1),
                fun _ => fits.reportsReadable_of_encrypted first second encrypted⟩

/-! ## A TPM to try it with -/

def splitBytes (count : Nat) (data : Bytes) : Option (Bytes × Bytes) :=
  if data.length < count then none else some (data.take count, data.drop count)

theorem splitBytes_append {count : Nat} {data : Bytes} (isCount : data.length = count)
    (rest : Bytes) : splitBytes count (data ++ rest) = some (data, rest) := by
  rw [splitBytes, List.length_append, if_neg (by omega), List.take_left' isCount,
    List.drop_left' isCount]

def littleEndianBuffers : KeymasterBuffers where
  uint32 value := LittleEndian.encode 4 value.toNat
  length_uint32 _ := LittleEndian.length_encode ..
  appendToBuf capacity written data :=
    if written.length + data.length ≤ capacity then written ++ data else written
  appendToBuf_eq _ _ _ := rfl
  copyFromBuf data size := splitBytes size data
  copyFromBuf_append _ rest := splitBytes_append rfl rest
  copyUint32FromBuf data := (splitBytes 4 data).map fun parts =>
    (UInt32.ofNat (LittleEndian.decode parts.1), parts.2)
  copyUint32FromBuf_append value rest := by
    rw [splitBytes_append (LittleEndian.length_encode ..), Option.map_some,
      LittleEndian.decode_encode_uint32, UInt32.ofNat_toNat]
  copySizeAndDataFromBuf data := (splitBytes 4 data).bind fun parts =>
    splitBytes (LittleEndian.decode parts.1) parts.2
  copySizeAndDataFromBuf_append value data rest isSize := by
    rw [List.append_assoc, splitBytes_append (LittleEndian.length_encode ..), Option.bind_some,
      LittleEndian.decode_encode_uint32]
    exact splitBytes_append isSize rest

/-- A key is a byte, which is added to the data in each bit. -/
def maskTpm : Tpm UInt8 where
  publicPart key := Bytes.zeros 51 ++ [key]
  privatePart key := Bytes.zeros 99 ++ [key]
  publicSize := 52
  privateSize := 100
  length_publicPart _ := rfl
  length_privatePart _ := rfl
  publicSize_gt := by decide
  privateSize_gt := by decide
  unmarshalPublic := splitBytes 52
  unmarshalPublic_append _ rest := splitBytes_append rfl rest
  unmarshalPublic_nil := rfl
  unmarshalPrivate := splitBytes 100
  unmarshalPrivate_append _ rest := splitBytes_append rfl rest
  load _ privatePart := privatePart.getLast?
  load_parts key := List.getLast?_concat
  encryptDecrypt key _ iv data := (data.map (· ^^^ key), iv)
  length_encrypt _ _ _ := List.length_map _
  decrypt_encrypt key iv data := by
    simp only [List.map_map, Prod.mk.injEq, and_true]
    calc data.map ((· ^^^ key) ∘ (· ^^^ key))
        = data.map id := List.map_congr_left fun byte _ => by
          change (byte ^^^ key) ^^^ key = byte
          rw [UInt8.xor_assoc, UInt8.xor_self, UInt8.xor_zero]
      _ = data := List.map_id data
  hmac data := Bytes.zeros 31 ++ [UInt8.ofNat data.length]
  length_hmac _ := rfl

def literals : Jsoncpp (Option Bool) where
  null := none
  writeString value :=
    match value with
    | none => [110, 117, 108, 108]
    | some true => [116, 114, 117, 101]
    | some false => [102, 97, 108, 115, 101]
  parse text :=
    if text = [110, 117, 108, 108] then some none
    else if text = [116, 114, 117, 101] then some (some true)
    else if text = [102, 97, 108, 115, 101] then some (some false)
    else none
  parse_writeString value := by
    rcases value with _ | _ | _ <;> rfl

def workingTpm : Environment UInt8 where
  first := ⟨true, some 1⟩
  second := ⟨true, some 2⟩
  encryption := ⟨⟨true, some 3⟩, some ⟨Bytes.zeros ivSize, rfl⟩, fun _ => true⟩
  signs := true

theorem protected_json_readable_true :
    ReportsReadable maskTpm littleEndianBuffers literals workingTpm (some true) none := by
  have fits : Fits maskTpm (literals.writeString (some true)) := by
    rw [Fits]
    decide +kernel
  rw [protected_json_readable_iff maskTpm littleEndianBuffers literals workingTpm (some true) none
    fits]
  exact fun looks => Option.some_ne_none 1 looks.1.first.2

/-- No slot is left for a new key until the value is to be signed. -/
def noSlots : Environment UInt8 where
  first := ⟨true, none⟩
  second := ⟨true, none⟩
  encryption := ⟨⟨true, none⟩, none, fun _ => false⟩
  signs := true

/-- `true` is reported as written to a file from which `null` is read. -/
theorem protected_json_lost :
    (∃ file, writeProtectedJsonToFile maskTpm littleEndianBuffers literals noSlots (some true)
        none = .returned true (some file) ∧ file.length = 40 ∧
      readProtectedJsonFromFile maskTpm littleEndianBuffers literals (some file) = none) ∧
    ¬ ReportsReadable maskTpm littleEndianBuffers literals noSlots (some true) none :=
  ⟨⟨_, rfl, rfl, rfl⟩, fun readable => nomatch readable⟩

end Cuttlefish.SecureEnv
