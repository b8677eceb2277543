import Cuttlefish.ImageAggregator.DiskImage

/-! # Building a partition table

`CompositeDiskBuilder` of `image_aggregator.cc`: partitions are appended one by
one, each behind the one before, and the table is made of them at the end. -/

namespace Cuttlefish.ImageAggregator

open Fs

structure ImagePartition where
  label : Bytes
  imageFilePath : Path
  type : GptPartitionType
  deriving DecidableEq, Repr

structure PartitionInfo where
  source : ImagePartition
  size : UInt64
  offset : UInt64
  deriving DecidableEq, Repr

def PartitionInfo.alignedSize (partition : PartitionInfo) : UInt64 :=
  alignToPartitionSize partition.size

structure CompositeDiskBuilder where
  partitions : List PartitionInfo
  nextDiskOffset : UInt64
  readOnly : Bool
  deriving DecidableEq, Repr

namespace CompositeDiskBuilder

/-- The first partition starts behind `GptBeginning`. -/
def new (readOnly : Bool) : CompositeDiskBuilder where
  partitions := []
  nextDiskOffset := 20480
  readOnly := readOnly

def labelText (label : Bytes) : String :=
  String.ofList (label.map fun byte => Char.ofNat byte.toNat)

def appendPartition (host : Host) (files : FileSystem) (builder : CompositeDiskBuilder)
    (source : ImagePartition) : Result CompositeDiskBuilder := do
  let size ← expandedStorageSize host files source.imageFilePath
  let alignedSize := alignToPartitionSize size
  cfExpect (size = alignedSize || builder.readOnly)
    ("read-write partition '" ++ labelText source.label ++
      "' is not aligned to the size of '4096'")
  return { builder with
    partitions := builder.partitions ++ [{ source, size, offset := builder.nextDiskOffset }]
    nextDiskOffset := builder.nextDiskOffset + alignedSize }

/-- `AppendPartition` as it is called: the builder keeps what it had when an error
is returned, and the error is dropped. -/
def appendPartitionUnchecked (host : Host) (files : FileSystem)
    (builder : CompositeDiskBuilder) (source : ImagePartition) : CompositeDiskBuilder :=
  match builder.appendPartition host files source with
  | .ok appended => appended
  | .error _ => builder

def diskSize (builder : CompositeDiskBuilder) : UInt64 :=
  alignToPowerOf2 (builder.nextDiskOffset + 16896) diskSizeShift

/-- The entry of the partition with the given number. -/
def entry (host : Host) (index : Nat) (partition : PartitionInfo) :
    Result GptPartitionEntry := do
  let typeGuid ← getPartitionGuid partition.source.type
  return {
    partitionTypeGuid := typeGuid
    uniquePartitionGuid := .setRandomUuid (host.random (index + 1))
    firstLba := partition.offset / 512
    lastLba := (partition.offset + partition.alignedSize) / 512 - 1
    attributes := 0
    partitionName := .ofLabel partition.source.label }

/-- The entries of the partitions from the given number on. -/
def entries (host : Host) : (index : Nat) → List PartitionInfo →
    Result (List GptPartitionEntry)
  | _, [] => .ok []
  | index, partition :: rest => do
      let first ← entry host index partition
      let others ← entries host (index + 1) rest
      return first :: others

def header (host : Host) (builder : CompositeDiskBuilder) (table : GptEntries) : GptHeader :=
  let header : GptHeader :=
    { headerSize := 92
      headerCrc32 := 0
      reserved := 0
      currentLba := 1
      backupLba := builder.diskSize / 512 - 1
      firstUsableLba := 20480 / 512
      lastUsableLba := builder.nextDiskOffset / 512 - 1
      diskGuid := .setRandomUuid (host.random 0)
      partitionEntriesLba := 2
      numPartitionEntries := 128
      partitionEntrySize := 128
      partitionEntriesCrc32 := host.crc32 table.encode }
  { header with headerCrc32 := host.crc32 header.encode }

def beginning (host : Host) (builder : CompositeDiskBuilder) : Result GptBeginning := do
  cfExpect (builder.partitions.length ≤ gptNumPartitions) "Too many partitions"
  let used ← entries host 0 builder.partitions
  let table := GptEntries.ofUsed used
  return {
    protectiveMbr := protectiveMbr builder.diskSize
    header := builder.header host table
    entries := table }

/-- `End`: the backup of a table. Its last bytes are never initialised. -/
def gptEnd (host : Host) (builder : CompositeDiskBuilder) (head : GptBeginning) : GptEnd :=
  let footer : GptHeader :=
    { head.header with
      partitionEntriesLba := (builder.diskSize - 16384) / 512 - 1
      currentLba := head.header.backupLba
      backupLba := head.header.currentLba
      headerCrc32 := 0 }
  { entries := head.entries
    footer := { footer with headerCrc32 := host.crc32 footer.encode }
    footerPadding := (List.range 420).map host.uninitialized
    length_footerPadding := by simp }

end CompositeDiskBuilder

end Cuttlefish.ImageAggregator
