import Cuttlefish.SecureEnv.ProtectedJson

/-! # The view of decrypted data

`EncryptedSerializable::Deserialize` of `host/commands/secure_env`, for any wrapped object: what is
decrypted is handed out by two pointers, of which the second comes from the blob. -/

namespace Cuttlefish.SecureEnv.EncryptedView

structure View where
  data : Bytes
  wrappedSize : Nat
  deriving DecidableEq

/-- The wrapped object: whether it accepts a view, and where it leaves the first pointer. -/
abbrev Wrapped := View → Bool × Nat

structure Deserialized where
  returned : Bool
  view : Option View

def Deserialized.failed : Deserialized := ⟨false, none⟩

structure Header (Key : Type) where
  key : Key
  iv : Bytes
  wrappedSize : UInt32
  rest : Bytes

section

variable {Key : Type} (tpm : Tpm Key) (keymaster : KeymasterBuffers)

/-- What is read in front of the encrypted data, where the key can be loaded. -/
def readHeader (parentKey : Bool) (data : Bytes) : Option (Header Key) :=
  if parentKey = false then none
  else do
    let (publicPart, data) ← tpm.unmarshalPublic data
    let (privatePart, data) ← tpm.unmarshalPrivate data
    let key ← tpm.load publicPart privatePart
    let (block, data) ← keymaster.copyUint32FromBuf data
    if block ≠ blockSize then none
    else
      let (size, data) ← keymaster.copyUint32FromBuf data
      if size.toNat ≠ ivSize then none
      else
        let (iv, data) ← keymaster.copyFromBuf data ivSize
        let (wrappedSize, data) ← keymaster.copyUint32FromBuf data
        some ⟨key, iv, wrappedSize, data⟩

def decryptedVector (size : Nat) (decrypted : Bytes) : Bytes :=
  (decrypted ++ Bytes.zeros size).take size

def deserialize (parentKey : Bool) (succeeds : Nat → Bool) (wrapped : Wrapped) (data : Bytes) :
    Deserialized :=
  match readHeader tpm keymaster parentKey data with
  | none => .failed
  | some header =>
      let encryptedSize := (roundUpToBlockSize header.wrappedSize).toNat
      match keymaster.copyFromBuf header.rest encryptedSize with
      | none => .failed
      | some (encrypted, _) =>
          match tpmEncryptDecrypt tpm header.key true succeeds encryptedSize 0 header.iv
              encrypted with
          | none => .failed
          | some decrypted =>
              let view : View :=
                ⟨decryptedVector encryptedSize decrypted, header.wrappedSize.toNat⟩
              let (accepted, position) := wrapped view
              ⟨accepted && position == view.wrappedSize, some view⟩

end

theorem length_decryptedVector (size : Nat) (decrypted : Bytes) :
    (decryptedVector size decrypted).length = size := by
  simp [decryptedVector]

/-- The view ends inside of the data, and a wrapped object that does not use all of it is
refused. -/
structure Contained (wrapped : Wrapped) (deserialized : Deserialized) : Prop where
  inside : ∀ view ∈ deserialized.view, view.wrappedSize ≤ view.data.length
  whole : deserialized.returned = true →
    ∃ view ∈ deserialized.view, wrapped view = (true, view.wrappedSize)

/-! ## Sizes at the end of the range -/

theorem roundUpToBlockSize_of_large {num : UInt32} (large : ¬ num.toNat + 16 ≤ 2 ^ 32) :
    roundUpToBlockSize num = 0 := by
  have bound : num.toNat < 2 ^ 32 := num.toNat_lt
  have block : blockSize.toNat = 16 := rfl
  have rest : (num % blockSize).toNat = num.toNat % 16 := by rw [UInt32.toNat_mod, block]
  have positive : num.toNat % 16 ≠ 0 := by omega
  have notWhole : num % blockSize ≠ 0 := by
    intro whole
    rw [whole] at rest
    exact positive rest.symm
  have le : num % blockSize ≤ blockSize := by
    rw [UInt32.le_iff_toNat_le, rest, block]
    omega
  have added : (blockSize - num % blockSize).toNat = 16 - num.toNat % 16 := by
    rw [UInt32.toNat_sub_of_le _ _ le, rest, block]
  rw [roundUpToBlockSize, if_neg notWhole]
  apply UInt32.toNat_inj.mp
  change _ = 0
  rw [UInt32.toNat_add, added]
  omega

theorem le_roundUpToBlockSize_iff (num : UInt32) :
    num.toNat ≤ (roundUpToBlockSize num).toNat ↔ num.toNat + 16 ≤ 2 ^ 32 := by
  constructor
  · intro le
    apply Classical.byContradiction
    intro large
    rw [roundUpToBlockSize_of_large large] at le
    have none : num.toNat ≤ 0 := le
    omega
  · exact fun small => (toNat_roundUpToBlockSize small).1

section

variable {Key : Type} {tpm : Tpm Key} {keymaster : KeymasterBuffers} {wrapped : Wrapped}

theorem deserialize_of_large {parentKey : Bool} {data : Bytes} {header : Header Key}
    (read : readHeader tpm keymaster parentKey data = some header)
    (large : ¬ header.wrappedSize.toNat + 16 ≤ 2 ^ 32) (succeeds : Nat → Bool) :
    (deserialize tpm keymaster parentKey succeeds wrapped data).view =
      some ⟨[], header.wrappedSize.toNat⟩ := by
  have empty : keymaster.copyFromBuf header.rest 0 = some ([], header.rest) :=
    keymaster.copyFromBuf_append [] header.rest
  rw [deserialize, read]
  dsimp only
  rw [roundUpToBlockSize_of_large large]
  change (match keymaster.copyFromBuf header.rest 0 with
    | none => _
    | some (encrypted, _) => _ : Deserialized).view = _
  rw [empty]
  rfl

theorem deserialize_view {parentKey : Bool} {succeeds : Nat → Bool} {data : Bytes} {view : View}
    (handed : (deserialize tpm keymaster parentKey succeeds wrapped data).view = some view) :
    ∃ header, readHeader tpm keymaster parentKey data = some header ∧
      view.wrappedSize = header.wrappedSize.toNat ∧
      view.data.length = (roundUpToBlockSize header.wrappedSize).toNat := by
  rw [deserialize] at handed
  split at handed
  · cases handed
  · rename_i header read
    refine ⟨header, read, ?_⟩
    dsimp only at handed
    split at handed
    · cases handed
    · split at handed
      · cases handed
      · cases handed
        exact ⟨rfl, length_decryptedVector _ _⟩

theorem deserialize_whole {parentKey : Bool} {succeeds : Nat → Bool} {data : Bytes}
    (returned : (deserialize tpm keymaster parentKey succeeds wrapped data).returned = true) :
    ∃ view ∈ (deserialize tpm keymaster parentKey succeeds wrapped data).view,
      wrapped view = (true, view.wrappedSize) := by
  rw [deserialize] at returned ⊢
  split at returned
  · cases returned
  · dsimp only at returned ⊢
    split at returned
    · cases returned
    · split at returned
      · cases returned
      · have both := Bool.and_eq_true_iff.mp returned
        refine ⟨_, rfl, ?_⟩
        exact Prod.ext both.1 (eq_of_beq both.2)

/-- The view stays inside of the decrypted data exactly where the size in the header is at most
the last multiple of the block size. -/
theorem deserialize_contained_iff (tpm : Tpm Key) (keymaster : KeymasterBuffers)
    (parentKey : Bool) (succeeds : Nat → Bool) (wrapped : Wrapped) (data : Bytes) :
    Contained wrapped (deserialize tpm keymaster parentKey succeeds wrapped data) ↔
      ∀ header, readHeader tpm keymaster parentKey data = some header →
        header.wrappedSize.toNat + 16 ≤ 2 ^ 32 := by
  constructor
  · intro contained header read
    apply Classical.byContradiction
    intro large
    have inside : header.wrappedSize.toNat ≤ 0 :=
      contained.inside _ (deserialize_of_large read large succeeds)
    omega
  · intro small
    constructor
    · intro view handed
      rcases deserialize_view handed with ⟨header, read, size, length⟩
      rw [size, length]
      exact (le_roundUpToBlockSize_iff header.wrappedSize).mpr (small header read)
    · exact deserialize_whole

end

/-! ## A size that wraps around -/

/-- A blob that ends with the size of the wrapped data. -/
def blobWithSize (size : UInt32) : Bytes :=
  maskTpm.publicPart 5 ++ (maskTpm.privatePart 5 ++ (LittleEndian.encode 4 16 ++
    (LittleEndian.encode 4 16 ++ (Bytes.zeros 16 ++ LittleEndian.encode 4 size.toNat))))

/-- The wrapped object gets 4294967295 bytes and no data. -/
theorem view_beyond_data :
    ¬ Contained (fun _ => (false, 0)) (deserialize maskTpm littleEndianBuffers true (fun _ => true)
      (fun _ => (false, 0)) (blobWithSize 4294967295)) := by
  intro contained
  have handed : (deserialize maskTpm littleEndianBuffers true (fun _ => true)
      (fun _ => (false, 0)) (blobWithSize 4294967295)).view = some ⟨[], 4294967295⟩ := by
    decide +kernel
  exact absurd (contained.inside _ handed) (by decide)

end Cuttlefish.SecureEnv.EncryptedView
