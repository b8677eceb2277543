import Cuttlefish.ImageAggregator.PartitionTable

/-! # The partition table and its backup

The entries of the table that a builder makes, the two headers, and the places where
the disk has what the headers point to. -/

namespace Cuttlefish.ImageAggregator

open Fs

variable {host : Host} {files : FileSystem} {builder : CompositeDiskBuilder}

/-! ## Entries -/

structure Spans (entry : GptPartitionEntry) (start finish : Nat) : Prop where
  first : entry.firstLba.toNat * sectorSize = start
  last : (entry.lastLba.toNat + 1) * sectorSize = finish

theorem toNat_lastSector {position : UInt64} (some_ : 512 ≤ position.toNat) :
    (position / 512 - 1).toNat = position.toNat / 512 - 1 := by
  have sector : (512 : UInt64).toNat = 512 := by decide
  have oneNat : (1 : UInt64).toNat = 1 := by decide
  have one : (1 : UInt64) ≤ position / 512 := by
    rw [UInt64.le_iff_toNat_le, UInt64.toNat_div, sector, oneNat]
    omega
  rw [UInt64.toNat_sub_of_le _ _ one, UInt64.toNat_div, sector, oneNat]

theorem spans_of_entry {index : Nat} {partition : PartitionInfo} {entry : GptPartitionEntry}
    (made : CompositeDiskBuilder.entry host index partition = .ok entry)
    (size : partition.alignedSize.toNat = roundUp partition.size.toNat)
    (bound : partition.offset.toNat + roundUp partition.size.toNat < 18446744073709551616)
    (aligned : partition.offset.toNat % 4096 = 0) (positive : 0 < partition.offset.toNat) :
    Spans entry partition.offset.toNat
      (partition.offset.toNat + roundUp partition.size.toNat) := by
  rcases entry_eq_ok made with ⟨-, -, isFirst, isLast⟩
  have sector : (512 : UInt64).toNat = 512 := by decide
  have whole : roundUp partition.size.toNat % 4096 = 0 := by
    rw [roundUp]
    omega
  have finish : (partition.offset + partition.alignedSize).toNat =
      partition.offset.toNat + roundUp partition.size.toNat := by
    rw [UInt64.toNat_add, size]
    exact Nat.mod_eq_of_lt (by omega)
  constructor
  · rw [isFirst, UInt64.toNat_div, sector, sectorSize]
    omega
  · rw [isLast, toNat_lastSector (by omega), finish, sectorSize]
    omega

/-- The entries of placed partitions: each starts at a multiple of 4096, ends before
the next one starts, and none leaves the range. -/
structure EntriesPlaced (used : List GptPartitionEntry) (start finish : Nat) : Prop where
  aligned : ∀ entry ∈ used, entry.firstLba.toNat * sectorSize % 4096 = 0
  nonempty : ∀ entry ∈ used, entry.firstLba.toNat ≤ entry.lastLba.toNat
  ordered : used.Pairwise fun first second => first.lastLba.toNat < second.firstLba.toNat
  within : ∀ entry ∈ used, start ≤ entry.firstLba.toNat * sectorSize ∧
    (entry.lastLba.toNat + 1) * sectorSize ≤ finish

theorem Placed.start_le {start finish : Nat} {partitions : List PartitionInfo}
    (placed : Placed start partitions finish) : start ≤ finish := by
  induction placed with
  | nil start => exact Nat.le_refl _
  | cons _ _ _ induction => omega

theorem Placed.entries {start finish index : Nat} {partitions : List PartitionInfo}
    (placed : Placed start partitions finish) (aligned : start % 4096 = 0) (positive : 0 < start)
    (nonempty : ∀ partition ∈ partitions, partition.size ≠ 0)
    {used : List GptPartitionEntry}
    (made : CompositeDiskBuilder.entries host index partitions = .ok used) :
    EntriesPlaced used start finish := by
  induction placed generalizing index used with
  | nil start =>
      cases made
      exact ⟨by simp, by simp, .nil, by simp⟩
  | @cons partition rest finish size bound placed induction =>
      rcases Result.bind_eq_ok.mp made with ⟨first, firstMade, made⟩
      rcases Result.bind_eq_ok.mp made with ⟨others, othersMade, returned⟩
      cases returned
      have spans := spans_of_entry firstMade size bound aligned positive
      have someSize : 0 < partition.size.toNat := by
        have notZero := nonempty partition List.mem_cons_self
        rw [Nat.pos_iff_ne_zero]
        exact fun isZero => notZero (UInt64.toNat_inj.mp isZero)
      have pages : 4096 ≤ roundUp partition.size.toNat ∧
          roundUp partition.size.toNat % 4096 = 0 := by
        rw [roundUp]
        omega
      have later := induction (by omega) (by omega)
        (fun other member => nonempty other (List.mem_cons_of_mem partition member)) othersMade
      have forward := placed.start_le
      have isFirst := spans.first
      have isLast := spans.last
      rw [sectorSize] at isFirst isLast
      refine ⟨?_, ?_, List.pairwise_cons.mpr ⟨?_, later.ordered⟩, ?_⟩
      · intro entry member
        rcases List.mem_cons.mp member with isEntry | inRest
        · rw [isEntry, spans.first]
          exact aligned
        · exact later.aligned entry inRest
      · intro entry member
        rcases List.mem_cons.mp member with isEntry | inRest
        · rw [isEntry]
          omega
        · exact later.nonempty entry inRest
      · intro second member
        have behind := (later.within second member).1
        rw [sectorSize] at behind
        omega
      · intro entry member
        rcases List.mem_cons.mp member with isEntry | inRest
        · rw [isEntry, spans.first, spans.last]
          omega
        · have bounds := later.within entry inRest
          omega

theorem entries_of_known {index : Nat} {partitions : List PartitionInfo}
    (known : ∀ partition ∈ partitions, ∃ guid,
      getPartitionGuid partition.source.type = .ok guid) :
    ∃ used, CompositeDiskBuilder.entries host index partitions = .ok used := by
  induction partitions generalizing index with
  | nil => exact ⟨[], rfl⟩
  | cons partition rest induction =>
      rcases known partition List.mem_cons_self with ⟨guid, isGuid⟩
      have later : ∃ used, CompositeDiskBuilder.entries host (index + 1) rest = .ok used :=
        induction fun other member => known other (List.mem_cons_of_mem partition member)
      rcases later with ⟨others, othersMade⟩
      simp only [CompositeDiskBuilder.entries, CompositeDiskBuilder.entry, isGuid, othersMade]
      exact ⟨_, rfl⟩

theorem beginning_of_known (host : Host) (few : builder.partitions.length ≤ gptNumPartitions)
    (known : ∀ partition ∈ builder.partitions, ∃ guid,
      getPartitionGuid partition.source.type = .ok guid) :
    ∃ used, CompositeDiskBuilder.entries host 0 builder.partitions = .ok used ∧
      builder.beginning host = .ok
        { protectiveMbr := protectiveMbr builder.diskSize
          header := builder.header host (.ofUsed used)
          entries := .ofUsed used } := by
  rcases entries_of_known known with ⟨used, made⟩
  refine ⟨used, made, ?_⟩
  simp only [CompositeDiskBuilder.beginning, few, decide_true, cfExpect_true, made]
  rfl

/-! ## The whole disk -/

/-- The bytes of all partitions without their padding. -/
def totalSize (partitions : List PartitionInfo) : Nat :=
  (partitions.map fun partition => partition.size.toNat).sum

theorem alignedTotal_le (partitions : List PartitionInfo) :
    alignedTotal partitions ≤ totalSize partitions + 4095 * partitions.length := by
  induction partitions with
  | nil => simp [alignedTotal]
  | cons partition rest induction =>
      simp only [totalSize, List.map_cons, List.sum_cons, List.length_cons,
        alignedTotal_cons] at induction ⊢
      rw [roundUp]
      omega

theorem fits_of_small {partitions : List PartitionInfo}
    (few : partitions.length ≤ gptNumPartitions)
    (small : totalSize partitions < 4611686018427387904) : Fits partitions := by
  have aligned := alignedTotal_le partitions
  rw [gptNumPartitions] at few
  rw [Fits]
  omega

def writtenDisk (builder : CompositeDiskBuilder) (rawOf : PartitionInfo → Bytes)
    (beginning : GptBeginning) (gptEnd : GptEnd) : Bytes :=
  beginning.encode ++ (builder.partitions.flatMap fun partition => padded (rawOf partition)) ++
    Bytes.zeros (endPadding gptEnd).toNat ++ gptEnd.encode

theorem length_flatMap_padded {partitions : List PartitionInfo} {rawOf : PartitionInfo → Bytes}
    (sized : ∀ partition ∈ partitions, (rawOf partition).length = partition.size.toNat) :
    (partitions.flatMap fun partition => padded (rawOf partition)).length =
      alignedTotal partitions := by
  induction partitions with
  | nil => rfl
  | cons partition rest induction =>
      have later := induction fun other member =>
        sized other (List.mem_cons_of_mem partition member)
      have larger := le_roundUp partition.size.toNat
      rw [List.flatMap_cons, List.length_append, later, alignedTotal_cons, padded,
        List.length_append, Bytes.length_zeros, sized partition List.mem_cons_self]
      omega

theorem length_writtenDisk (layout : Layout builder) {beginning : GptBeginning}
    (made : builder.beginning host = .ok beginning) {rawOf : PartitionInfo → Bytes}
    (sized : ∀ partition ∈ builder.partitions,
      (rawOf partition).length = partition.size.toNat) :
    (beginning.encode ++
        (builder.partitions.flatMap fun partition => padded (rawOf partition)) ++
        Bytes.zeros (endPadding (builder.gptEnd host beginning)).toNat).length + 16896 =
      builder.diskSize.toNat := by
  have order := layout.next_le_diskSize
  have next := layout.next
  rw [List.length_append, List.length_append, beginning.length_encode,
    length_flatMap_padded sized, Bytes.length_zeros, layout.endPadding made]
  omega

/-- What the table of a builder and its backup say agrees with itself and with what is
written. -/
structure GptConsistent (builder : CompositeDiskBuilder) (used : List GptPartitionEntry)
    (beginning : GptBeginning) (gptEnd : GptEnd) : Prop where
  entries : beginning.entries = .ofUsed used
  count : used.length = builder.partitions.length
  aligned : ∀ entry ∈ used, entry.firstLba.toNat * sectorSize % 4096 = 0
  nonempty : ∀ entry ∈ used, entry.firstLba.toNat ≤ entry.lastLba.toNat
  ordered : used.Pairwise fun first second => first.lastLba.toNat < second.firstLba.toNat
  within : ∀ entry ∈ used,
    beginning.header.firstUsableLba.toNat ≤ entry.firstLba.toNat ∧
      entry.lastLba.toNat ≤ beginning.header.lastUsableLba.toNat
  backup : (beginning.header.backupLba.toNat + 1) * sectorSize = builder.diskSize.toNat
  swapped : gptEnd.footer.currentLba = beginning.header.backupLba ∧
    gptEnd.footer.backupLba = beginning.header.currentLba
  multiple : builder.diskSize.toNat % 65536 = 0
  written : ∀ rawOf : PartitionInfo → Bytes,
    (∀ partition ∈ builder.partitions, (rawOf partition).length = partition.size.toNat) →
    (writtenDisk builder rawOf beginning gptEnd).length = builder.diskSize.toNat ∧
      (writtenDisk builder rawOf beginning gptEnd).readAt
          (gptEnd.footer.partitionEntriesLba.toNat * sectorSize) 16384 =
        beginning.entries.encode ∧
      (writtenDisk builder rawOf beginning gptEnd).readAt
          (gptEnd.footer.currentLba.toNat * sectorSize) 92 = gptEnd.footer.encode

theorem Layout.toNat_footerEntriesLba (layout : Layout builder) :
    ((builder.diskSize - 16384) / 512 - 1).toNat * sectorSize =
      builder.diskSize.toNat - 16896 := by
  have sizeMod := layout.diskSize_mod
  have order := layout.next_le_diskSize
  have array : (16384 : UInt64).toNat = 16384 := by decide
  have room : (builder.diskSize - 16384).toNat = builder.diskSize.toNat - 16384 := by
    rw [UInt64.toNat_sub_of_le _ _ (by rw [UInt64.le_iff_toNat_le, array]; omega), array]
  rw [toNat_lastSector (by omega), room, sectorSize]
  omega

theorem writtenDisk_backup (layout : Layout builder) {beginning : GptBeginning}
    (made : builder.beginning host = .ok beginning) {rawOf : PartitionInfo → Bytes}
    (sized : ∀ partition ∈ builder.partitions,
      (rawOf partition).length = partition.size.toNat) :
    (writtenDisk builder rawOf beginning (builder.gptEnd host beginning)).length =
        builder.diskSize.toNat ∧
      (writtenDisk builder rawOf beginning (builder.gptEnd host beginning)).readAt
          (builder.diskSize.toNat - 16896) 16384 = beginning.entries.encode ∧
      (writtenDisk builder rawOf beginning (builder.gptEnd host beginning)).readAt
          (builder.diskSize.toNat - 512) 92 =
        (builder.gptEnd host beginning).footer.encode := by
  have front := length_writtenDisk layout made sized
  rw [writtenDisk]
  generalize beginning.encode ++
    (builder.partitions.flatMap fun partition => padded (rawOf partition)) ++
      Bytes.zeros (endPadding (builder.gptEnd host beginning)).toNat = before at front ⊢
  have entriesAt : (builder.gptEnd host beginning).encode.readAt 0 16384 =
      beginning.entries.encode :=
    Bytes.readAt_field 0 rfl rfl (GptEntries.length_encode _)
  have footerAt : (builder.gptEnd host beginning).encode.readAt 16384 92 =
      (builder.gptEnd host beginning).footer.encode :=
    Bytes.readAt_field 1 rfl (by simp) (GptHeader.length_encode _)
  refine ⟨?_, ?_, ?_⟩
  · rw [List.length_append, GptEnd.length_encode]
    exact front
  · have place : builder.diskSize.toNat - 16896 = before.length + 0 := by omega
    rw [place, Bytes.readAt_append_right]
    exact entriesAt
  · have place : builder.diskSize.toNat - 512 = before.length + 16384 := by omega
    rw [place, Bytes.readAt_append_right]
    exact footerAt

/-- The partition table of a disk agrees with its backup, with the partitions and with
the places where they are written. -/
theorem gpt_layout_consistent (host : Host) (files : FileSystem) (readOnly : Bool)
    (sources : List ImagePartition) {builder : CompositeDiskBuilder}
    (appended : sources.foldl (CompositeDiskBuilder.appendPartitionUnchecked host files)
      (.new readOnly) = builder)
    (few : builder.partitions.length ≤ gptNumPartitions)
    (nonempty : ∀ partition ∈ builder.partitions, partition.size ≠ 0)
    (small : totalSize builder.partitions < 4611686018427387904)
    (known : ∀ partition ∈ builder.partitions, ∃ guid,
      getPartitionGuid partition.source.type = .ok guid) :
    ∃ used beginning, builder.beginning host = .ok beginning ∧
      GptConsistent builder used beginning (builder.gptEnd host beginning) := by
  have built : Built host files builder :=
    appended ▸ (built_new host files readOnly).appendAll sources
  have layout := built.layout (fits_of_small few small)
  rcases beginning_of_known host few known with ⟨used, made, began⟩
  have placed := layout.placed.entries (by decide) (by decide) nonempty made
  have sizeMod := layout.diskSize_mod
  have order := layout.next_le_diskSize
  have nextMod := layout.next_mod
  have next := layout.next
  have lastSector : (builder.diskSize / 512 - 1).toNat = builder.diskSize.toNat / 512 - 1 :=
    toNat_lastSector (by omega)
  have lastUsable : (builder.nextDiskOffset / 512 - 1).toNat =
      builder.nextDiskOffset.toNat / 512 - 1 :=
    toNat_lastSector (by omega)
  have firstUsable : ((20480 : UInt64) / 512).toNat = 40 := by decide
  refine ⟨used, _, began, ⟨rfl, (entries_eq_ok made).1, placed.aligned, placed.nonempty,
    placed.ordered, ?_, ?_, ⟨rfl, rfl⟩, sizeMod, ?_⟩⟩
  · intro entry member
    have bounds := placed.within entry member
    rw [sectorSize] at bounds
    change ((20480 : UInt64) / 512).toNat ≤ _ ∧ _ ≤ (builder.nextDiskOffset / 512 - 1).toNat
    rw [firstUsable, lastUsable]
    omega
  · change ((builder.diskSize / 512 - 1).toNat + 1) * sectorSize = _
    rw [lastSector, sectorSize]
    omega
  · intro rawOf sized
    rcases writtenDisk_backup layout began sized with ⟨length, entries, footer⟩
    have entriesPlace := layout.toNat_footerEntriesLba
    have footerPlace : (builder.diskSize / 512 - 1).toNat * sectorSize =
        builder.diskSize.toNat - 512 := by
      rw [lastSector, sectorSize]
      omega
    refine ⟨length, ?_, ?_⟩
    · rw [← entriesPlace] at entries
      exact entries
    · rw [← footerPlace] at footer
      exact footer

def oneByteBuilder : CompositeDiskBuilder where
  partitions := [{ source := samplePartition, size := 1, offset := 20480 }]
  nextDiskOffset := 24576
  readOnly := true

theorem appended_oneByteBuilder :
    [samplePartition].foldl
        (CompositeDiskBuilder.appendPartitionUnchecked sampleHost (sampleFiles 1))
        (.new true) = oneByteBuilder := rfl

theorem known_oneByteBuilder : ∀ partition ∈ oneByteBuilder.partitions, ∃ guid,
    getPartitionGuid partition.source.type = .ok guid := by
  intro partition member
  rw [List.mem_singleton.mp member]
  exact ⟨linuxFileSystemGuid, rfl⟩

theorem gpt_layout_consistent_one_byte :
    ∃ used beginning, oneByteBuilder.beginning sampleHost = .ok beginning ∧
      GptConsistent oneByteBuilder used beginning
        (oneByteBuilder.gptEnd sampleHost beginning) :=
  gpt_layout_consistent sampleHost (sampleFiles 1) true [samplePartition]
    appended_oneByteBuilder (by decide) (by decide) (by decide) known_oneByteBuilder

/-! ## The protective MBR -/

/-- An entry covers the disk behind its first sector, or as much of it as 32 bits allow. -/
def MbrPartitionEntry.Covers (entry : MbrPartitionEntry) (diskSize : UInt64) : Prop :=
  entry.firstLba = 1 ∧ min (diskSize.toNat / 512 - 1) 4294967295 ≤ entry.numSectors.toNat

theorem toNat_numSectors (size : UInt64) :
    (protectiveMbr size).partition.numSectors.toNat = size.toNat % 4294967296 / 512 := by
  have sector : (512 : UInt32).toNat = 512 := by decide
  rw [protectiveMbr, UInt32.toNat_div, UInt64.toNat_toUInt32, sector]

/-- The protective MBR of a disk covers it, with no fewer sectors than that of any smaller disk, if
and only if the disk is smaller than 4 GiB. -/
theorem protectiveMbr_covers_iff (diskSize : UInt64) :
    ((protectiveMbr diskSize).partition.Covers diskSize ∧
        ∀ smaller ≤ diskSize, (protectiveMbr smaller).partition.numSectors ≤
          (protectiveMbr diskSize).partition.numSectors) ↔
      diskSize.toNat < 4294967296 := by
  constructor
  · intro parts
    have covers := parts.1.2
    rw [toNat_numSectors] at covers
    omega
  · intro small
    refine ⟨⟨rfl, ?_⟩, ?_⟩
    · rw [toNat_numSectors]
      omega
    · intro smaller less
      have lessNat := UInt64.le_iff_toNat_le.mp less
      rw [UInt32.le_iff_toNat_le, toNat_numSectors, toNat_numSectors]
      have whole : diskSize.toNat % 4294967296 = diskSize.toNat := Nat.mod_eq_of_lt small
      have part : smaller.toNat % 4294967296 = smaller.toNat := Nat.mod_eq_of_lt (by omega)
      rw [whole, part]
      exact Nat.div_le_div_right lessNat

/-- The protective MBR of a disk of 4 GiB has no sectors, and that of the next smaller disk has
almost 4 GiB of them. -/
theorem protectiveMbr_of_4_gib :
    (⟨[], 4294901760, true⟩ : CompositeDiskBuilder).diskSize = 4294967296 ∧
      ¬ (protectiveMbr 4294967296).partition.Covers 4294967296 ∧
      (protectiveMbr 4294967296).partition.numSectors = 0 ∧
      (protectiveMbr 4294901760).partition.numSectors = 8388480 := by
  constructor
  · decide
  constructor
  · intro covers
    exact absurd covers.2 (by decide)
  · decide

end Cuttlefish.ImageAggregator
