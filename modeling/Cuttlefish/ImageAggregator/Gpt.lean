import Cuttlefish.Foundation.LittleEndian
import Cuttlefish.Result

/-! # Partition tables

The packed structures of `gpt.h` and `mbr.h` and the bytes they occupy, and the
table that a reader of a disk finds in those bytes. -/

namespace Cuttlefish.ImageAggregator

open LittleEndian

/-! ## Sizes -/

def sectorSize : Nat := 512

def gptNumPartitions : Nat := 128

def diskSizeShift : UInt64 := 16

def partitionSizeShift : UInt64 := 12

def alignToPowerOf2 (val alignLog : UInt64) : UInt64 :=
  let align : UInt64 := 1 <<< alignLog
  ((val + (align - 1)) / align) * align

def alignToPartitionSize (size : UInt64) : UInt64 := alignToPowerOf2 size partitionSizeShift

def roundUp (size : Nat) : Nat := (size + 4095) / 4096 * 4096

theorem toNat_alignToPartitionSize {size : UInt64}
    (bound : size.toNat + 4095 < 18446744073709551616) :
    (alignToPartitionSize size).toNat = roundUp size.toNat := by
  have align : (1 : UInt64) <<< partitionSizeShift = 4096 := by decide
  simp only [alignToPartitionSize, alignToPowerOf2, align, roundUp]
  rw [UInt64.toNat_mul, UInt64.toNat_div, UInt64.toNat_add]
  have mask : ((4096 : UInt64) - 1).toNat = 4095 := by decide
  have width : (4096 : UInt64).toNat = 4096 := by decide
  rw [mask, width]
  omega

theorem roundUp_eq_self_iff (size : Nat) : roundUp size = size ↔ size % 4096 = 0 := by
  rw [roundUp]
  omega

theorem le_roundUp (size : Nat) : size ≤ roundUp size := by
  rw [roundUp]
  omega

/-! ## Partition entries -/

structure Guid where
  bytes : Bytes
  length_bytes : bytes.length = 16
  deriving DecidableEq

namespace Guid

def zero : Guid where
  bytes := List.replicate 16 0
  length_bytes := by simp

def ofBytes (bytes : Bytes) : Guid where
  bytes := (bytes ++ List.replicate 16 0).take 16
  length_bytes := by simp

@[simp]
theorem ofBytes_bytes (guid : Guid) : ofBytes guid.bytes = guid := by
  rcases guid with ⟨bytes, length_bytes⟩
  simp [ofBytes, ← length_bytes]

def setRandomUuid (random : Guid) : Guid where
  bytes := (random.bytes.modify 7 fun byte => (byte &&& 0x0F) ||| 0x40).modify 9 fun byte =>
    (byte &&& 0x3F) ||| 0x80
  length_bytes := by simp [random.length_bytes]

end Guid

/-- `GptPartitionType`; an `enum class` can hold numbers that it does not name. -/
inductive GptPartitionType
  | linuxFilesystem
  | efiSystemPartition
  | other (value : Int)
  deriving DecidableEq, Repr

def linuxFileSystemGuid : Guid where
  bytes := [0xaf, 0x3d, 0xc6, 0xf, 0x83, 0x84, 0x72, 0x47,
    0x8e, 0x79, 0x3d, 0x69, 0xd8, 0x47, 0x7d, 0xe4]
  length_bytes := rfl

def efiSystemPartitionGuid : Guid where
  bytes := [0x28, 0x73, 0x2a, 0xc1, 0x1f, 0xf8, 0xd2, 0x11,
    0xba, 0x4b, 0x0, 0xa0, 0xc9, 0x3e, 0xc9, 0x3b]
  length_bytes := rfl

def getPartitionGuid : GptPartitionType → Result Guid
  | .linuxFilesystem => .ok linuxFileSystemGuid
  | .efiSystemPartition => .ok efiSystemPartitionGuid
  | .other value => .error (.err ("Unknown partition type: " ++ toString value))

theorem getPartitionGuid_ne_zero {type : GptPartitionType} {guid : Guid}
    (known : getPartitionGuid type = .ok guid) : guid ≠ Guid.zero := by
  cases type with
  | linuxFilesystem =>
      cases known
      decide
  | efiSystemPartition =>
      cases known
      decide
  | other value => contradiction

structure PartitionName where
  units : List UInt16
  length_units : units.length = 36
  deriving DecidableEq

namespace PartitionName

/-- `std::u16string` from the characters of a label, which are signed, copied by
`u16cpy` over zeros. -/
def ofLabel (label : Bytes) : PartitionName where
  units :=
    let copied := ((label.map fun byte => byte.toInt8.toInt16.toUInt16).takeWhile
      (· ≠ 0)).take 36
    copied ++ List.replicate (36 - copied.length) 0
  length_units := by
    simp only [List.length_append, List.length_replicate, List.length_take]
    omega

def encode (name : PartitionName) : Bytes :=
  name.units.flatMap fun unit => LittleEndian.encode 2 unit.toNat

theorem length_encode (name : PartitionName) : name.encode.length = 72 := by
  rw [encode, Bytes.length_flatMap_of_width (fun _ => LittleEndian.length_encode 2 _),
    name.length_units]

def decode (bytes : Bytes) : PartitionName where
  units := (List.range 36).map fun index =>
    UInt16.ofNat (LittleEndian.decode (bytes.readAt (2 * index) 2))
  length_units := by simp

theorem decode_encode (name : PartitionName) : decode name.encode = name := by
  rcases name with ⟨units, length_units⟩
  have same : (decode (encode ⟨units, length_units⟩)).units = units := by
    apply List.ext_getElem
    · simp [decode, length_units]
    · intro index bound unitBound
      have found : units[index]? = some units[index] := List.getElem?_eq_getElem unitBound
      simp only [decode, encode, List.getElem_map, List.getElem_range]
      rw [Bytes.readAt_flatMap (by simp) found, decode_encode_uint16, UInt16.ofNat_toNat]
  cases hdec : decode (encode ⟨units, length_units⟩) with
  | mk decoded decodedLength =>
      rw [hdec] at same
      cases same
      rfl

end PartitionName

structure GptPartitionEntry where
  partitionTypeGuid : Guid
  uniquePartitionGuid : Guid
  firstLba : UInt64
  lastLba : UInt64
  attributes : UInt64
  partitionName : PartitionName
  deriving DecidableEq

namespace GptPartitionEntry

def unused : GptPartitionEntry where
  partitionTypeGuid := .zero
  uniquePartitionGuid := .zero
  firstLba := 0
  lastLba := 0
  attributes := 0
  partitionName := .ofLabel []

def fields (entry : GptPartitionEntry) : List Bytes :=
  [entry.partitionTypeGuid.bytes, entry.uniquePartitionGuid.bytes,
    LittleEndian.encode 8 entry.firstLba.toNat, LittleEndian.encode 8 entry.lastLba.toNat,
    LittleEndian.encode 8 entry.attributes.toNat, entry.partitionName.encode]

def encode (entry : GptPartitionEntry) : Bytes := entry.fields.flatten

def decode (bytes : Bytes) : GptPartitionEntry where
  partitionTypeGuid := .ofBytes (bytes.readAt 0 16)
  uniquePartitionGuid := .ofBytes (bytes.readAt 16 16)
  firstLba := .ofNat (LittleEndian.decode (bytes.readAt 32 8))
  lastLba := .ofNat (LittleEndian.decode (bytes.readAt 40 8))
  attributes := .ofNat (LittleEndian.decode (bytes.readAt 48 8))
  partitionName := .decode (bytes.readAt 56 72)

@[simp]
theorem length_encode (entry : GptPartitionEntry) : entry.encode.length = 128 := by
  simp [encode, fields, Guid.length_bytes, PartitionName.length_encode]

private theorem readAt_encode (entry : GptPartitionEntry) (index : Nat) {field : Bytes}
    {position width : Nat} (found : entry.fields[index]? = some field)
    (start : (entry.fields.take index).flatten.length = position)
    (size : field.length = width) : entry.encode.readAt position width = field :=
  Bytes.readAt_field index found start size

theorem decode_encode (entry : GptPartitionEntry) : decode entry.encode = entry := by
  rw [decode]
  rw [entry.readAt_encode 0 rfl (by simp) entry.partitionTypeGuid.length_bytes,
    entry.readAt_encode 1 rfl (by simp [fields, Guid.length_bytes])
      entry.uniquePartitionGuid.length_bytes,
    entry.readAt_encode 2 rfl (by simp [fields, Guid.length_bytes])
      (LittleEndian.length_encode 8 _),
    entry.readAt_encode 3 rfl (by simp [fields, Guid.length_bytes])
      (LittleEndian.length_encode 8 _),
    entry.readAt_encode 4 rfl (by simp [fields, Guid.length_bytes])
      (LittleEndian.length_encode 8 _),
    entry.readAt_encode 5 rfl (by simp [fields, Guid.length_bytes])
      entry.partitionName.length_encode]
  simp [decode_encode_uint64, PartitionName.decode_encode]

end GptPartitionEntry

/-! ## The table of a disk -/

structure GptEntries where
  list : List GptPartitionEntry
  length_list : list.length = gptNumPartitions
  deriving DecidableEq

namespace GptEntries

def encode (entries : GptEntries) : Bytes := entries.list.flatMap GptPartitionEntry.encode

@[simp]
theorem length_encode (entries : GptEntries) : entries.encode.length = 16384 := by
  rw [encode, Bytes.length_flatMap_of_width GptPartitionEntry.length_encode,
    entries.length_list, gptNumPartitions]

def ofUsed (used : List GptPartitionEntry) : GptEntries where
  list := (used ++ List.replicate gptNumPartitions GptPartitionEntry.unused).take gptNumPartitions
  length_list := by simp

theorem list_ofUsed {used : List GptPartitionEntry} (fits : used.length ≤ gptNumPartitions) :
    (ofUsed used).list =
      used ++ List.replicate (gptNumPartitions - used.length) GptPartitionEntry.unused := by
  simp only [ofUsed]
  rw [List.take_append, List.take_of_length_le fits, List.take_replicate,
    Nat.min_eq_left (Nat.sub_le _ _)]

end GptEntries

structure GptHeader where
  headerSize : UInt32
  headerCrc32 : UInt32
  reserved : UInt32
  currentLba : UInt64
  backupLba : UInt64
  firstUsableLba : UInt64
  lastUsableLba : UInt64
  diskGuid : Guid
  partitionEntriesLba : UInt64
  numPartitionEntries : UInt32
  partitionEntrySize : UInt32
  partitionEntriesCrc32 : UInt32
  deriving DecidableEq

namespace GptHeader

/-- `"EFI PART"`. -/
def signature : Bytes := [0x45, 0x46, 0x49, 0x20, 0x50, 0x41, 0x52, 0x54]

def revision : Bytes := [0, 0, 1, 0]

def encode (header : GptHeader) : Bytes :=
  [signature, revision, LittleEndian.encode 4 header.headerSize.toNat,
    LittleEndian.encode 4 header.headerCrc32.toNat, LittleEndian.encode 4 header.reserved.toNat,
    LittleEndian.encode 8 header.currentLba.toNat, LittleEndian.encode 8 header.backupLba.toNat,
    LittleEndian.encode 8 header.firstUsableLba.toNat,
    LittleEndian.encode 8 header.lastUsableLba.toNat, header.diskGuid.bytes,
    LittleEndian.encode 8 header.partitionEntriesLba.toNat,
    LittleEndian.encode 4 header.numPartitionEntries.toNat,
    LittleEndian.encode 4 header.partitionEntrySize.toNat,
    LittleEndian.encode 4 header.partitionEntriesCrc32.toNat].flatten

@[simp]
theorem length_encode (header : GptHeader) : header.encode.length = 92 := by
  simp [encode, signature, revision, Guid.length_bytes]

end GptHeader

/-- `MbrPartitionEntry` without its status and its CHS addresses, which stay
zero. -/
structure MbrPartitionEntry where
  partitionType : UInt8
  firstLba : UInt32
  numSectors : UInt32
  deriving DecidableEq, Repr

def MbrPartitionEntry.encode (entry : MbrPartitionEntry) : Bytes :=
  [Bytes.zeros 4, [entry.partitionType], Bytes.zeros 3,
    LittleEndian.encode 4 entry.firstLba.toNat,
    LittleEndian.encode 4 entry.numSectors.toNat].flatten

structure MasterBootRecord where
  partition : MbrPartitionEntry
  deriving DecidableEq, Repr

namespace MasterBootRecord

def encode (mbr : MasterBootRecord) : Bytes :=
  [Bytes.zeros 446, mbr.partition.encode, Bytes.zeros 48, [0x55, 0xAA]].flatten

@[simp]
theorem length_encode (mbr : MasterBootRecord) : mbr.encode.length = 512 := by
  simp [encode, MbrPartitionEntry.encode]

end MasterBootRecord

/-- `ProtectiveMbr`: the size is cast to 32 bits before it is divided. -/
def protectiveMbr (size : UInt64) : MasterBootRecord where
  partition :=
    { partitionType := 0xEE
      firstLba := 1
      numSectors := size.toUInt32 / 512 }

structure GptBeginning where
  protectiveMbr : MasterBootRecord
  header : GptHeader
  entries : GptEntries

namespace GptBeginning

def encode (beginning : GptBeginning) : Bytes :=
  [beginning.protectiveMbr.encode, beginning.header.encode, Bytes.zeros 420,
    beginning.entries.encode, Bytes.zeros 3072].flatten

@[simp]
theorem length_encode (beginning : GptBeginning) : beginning.encode.length = 20480 := by
  simp [encode]

end GptBeginning

structure GptEnd where
  entries : GptEntries
  footer : GptHeader
  footerPadding : Bytes
  length_footerPadding : footerPadding.length = 420

namespace GptEnd

def encode (gptEnd : GptEnd) : Bytes :=
  [gptEnd.entries.encode, gptEnd.footer.encode, gptEnd.footerPadding].flatten

@[simp]
theorem length_encode (gptEnd : GptEnd) : gptEnd.encode.length = 16896 := by
  simp [encode, gptEnd.length_footerPadding]

end GptEnd

/-! ## Reading a disk -/

def readEntry (disk : Bytes) (index : Nat) : GptPartitionEntry :=
  .decode (disk.readAt (2 * sectorSize + 128 * index) 128)

def usedEntries (disk : Bytes) : List GptPartitionEntry :=
  ((List.range gptNumPartitions).map (readEntry disk)).filter fun entry =>
    entry.partitionTypeGuid ≠ .zero

def readSectors (disk : Bytes) (entry : GptPartitionEntry) : Bytes :=
  disk.readAt (entry.firstLba.toNat * sectorSize)
    ((entry.lastLba.toNat + 1 - entry.firstLba.toNat) * sectorSize)

theorem map_readEntry (beginning : GptBeginning) (rest : Bytes) :
    (List.range gptNumPartitions).map (readEntry (beginning.encode ++ rest)) =
      beginning.entries.list := by
  have size := beginning.entries.length_list
  apply List.ext_getElem
  · simp [size]
  · intro index bound listBound
    have found : beginning.entries.list[index]? = some beginning.entries.list[index] :=
      List.getElem?_eq_getElem listBound
    have array : beginning.encode.readAt 1024 16384 = beginning.entries.encode :=
      Bytes.readAt_field 3 rfl (by simp) (by simp)
    have element := Bytes.readAt_flatMap GptPartitionEntry.length_encode found
    have within : index < 128 := by
      rw [size] at listBound
      exact listBound
    simp only [List.getElem_map, List.getElem_range, readEntry, sectorSize]
    rw [Bytes.readAt_append_left _ (by simp; omega),
      ← Bytes.readAt_readAt beginning.encode 1024 16384 (by omega), array,
      GptEntries.encode, element, GptPartitionEntry.decode_encode]

theorem usedEntries_of_table {beginning : GptBeginning} {used : List GptPartitionEntry}
    (fits : used.length ≤ gptNumPartitions) (table : beginning.entries = .ofUsed used)
    (typed : ∀ entry ∈ used, entry.partitionTypeGuid ≠ .zero) (rest : Bytes) :
    usedEntries (beginning.encode ++ rest) = used := by
  rw [usedEntries, map_readEntry, table, GptEntries.list_ofUsed fits, List.filter_append]
  have kept : used.filter (fun entry => entry.partitionTypeGuid ≠ .zero) = used := by
    apply List.filter_eq_self.mpr
    intro entry member
    simpa using typed entry member
  rw [kept]
  simp [GptPartitionEntry.unused]

end Cuttlefish.ImageAggregator
