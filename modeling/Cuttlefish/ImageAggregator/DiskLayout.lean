import Mathlib.Algebra.GroupWithZero.Nat
import Cuttlefish.ImageAggregator.AggregateImage

/-! # Where a builder puts its partitions

The partitions of a `CompositeDiskBuilder` lie one behind the other from the end of
the partition table on, each rounded up to 4096 bytes, and the rest of the disk is
the gap that `WriteEnd` fills and the backup table. -/

namespace Cuttlefish.ImageAggregator

open Fs

variable {host : Host} {files : FileSystem} {builder : CompositeDiskBuilder}

/-! ## Partitions one behind the other -/

inductive Stacked : UInt64 → List PartitionInfo → UInt64 → Prop
  | nil (start : UInt64) : Stacked start [] start
  | cons {partition : PartitionInfo} {rest : List PartitionInfo} {finish : UInt64}
      (stacked : Stacked (partition.offset + partition.alignedSize) rest finish) :
      Stacked partition.offset (partition :: rest) finish

theorem Stacked.append {start next : UInt64} {partitions : List PartitionInfo}
    (stacked : Stacked start partitions next) {partition : PartitionInfo}
    (behind : partition.offset = next) :
    Stacked start (partitions ++ [partition]) (next + partition.alignedSize) := by
  induction stacked with
  | nil start =>
      subst behind
      exact .cons (.nil _)
  | cons _ induction => exact .cons (induction behind)

/-- What a builder has after any partitions were appended. -/
structure Built (host : Host) (files : FileSystem) (builder : CompositeDiskBuilder) : Prop where
  stacked : Stacked 20480 builder.partitions builder.nextDiskOffset
  sized : ∀ partition ∈ builder.partitions,
    expandedStorageSize host files partition.source.imageFilePath = .ok partition.size

theorem built_new (host : Host) (files : FileSystem) (readOnly : Bool) :
    Built host files (.new readOnly) where
  stacked := .nil 20480
  sized := by simp [CompositeDiskBuilder.new]

theorem Built.appendPartitionUnchecked (built : Built host files builder)
    (source : ImagePartition) :
    Built host files (builder.appendPartitionUnchecked host files source) := by
  rw [CompositeDiskBuilder.appendPartitionUnchecked]
  cases appended : builder.appendPartition host files source with
  | error failure => exact built
  | ok next =>
      rcases Result.bind_eq_ok.mp appended with ⟨size, isSize, appended⟩
      rcases Result.bind_eq_ok.mp appended with ⟨_, -, isNext⟩
      cases isNext
      refine ⟨built.stacked.append rfl, ?_⟩
      intro partition member
      rcases List.mem_append.mp member with old | new
      · exact built.sized partition old
      · rw [List.mem_singleton.mp new]
        exact isSize

theorem Built.appendAll (built : Built host files builder) (sources : List ImagePartition) :
    Built host files
      (sources.foldl (CompositeDiskBuilder.appendPartitionUnchecked host files) builder) := by
  induction sources generalizing builder with
  | nil => exact built
  | cons source rest induction => exact induction (built.appendPartitionUnchecked source)

/-! ## Sizes as numbers -/

def alignedTotal (partitions : List PartitionInfo) : Nat :=
  (partitions.map fun partition => roundUp partition.size.toNat).sum

@[simp]
theorem alignedTotal_cons (partition : PartitionInfo) (rest : List PartitionInfo) :
    alignedTotal (partition :: rest) = roundUp partition.size.toNat + alignedTotal rest := by
  simp [alignedTotal]

/-- The table, the partitions and the backup table, rounded up, fit into 64 bits. -/
def Fits (partitions : List PartitionInfo) : Prop :=
  20480 + alignedTotal partitions + 16896 + 65535 < 18446744073709551616

instance (partitions : List PartitionInfo) : Decidable (Fits partitions) :=
  inferInstanceAs (Decidable (_ < _))

theorem toNat_alignedSize {partition : PartitionInfo}
    (bound : roundUp partition.size.toNat < 18446744073709551616) :
    partition.alignedSize.toNat = roundUp partition.size.toNat := by
  rw [PartitionInfo.alignedSize, toNat_alignToPartitionSize]
  rw [roundUp] at bound
  omega

inductive Placed : Nat → List PartitionInfo → Nat → Prop
  | nil (start : Nat) : Placed start [] start
  | cons {partition : PartitionInfo} {rest : List PartitionInfo} {finish : Nat}
      (size : partition.alignedSize.toNat = roundUp partition.size.toNat)
      (bound : partition.offset.toNat + roundUp partition.size.toNat < 18446744073709551616)
      (placed : Placed (partition.offset.toNat + roundUp partition.size.toNat) rest finish) :
      Placed partition.offset.toNat (partition :: rest) finish

theorem Stacked.placed {start next : UInt64} {partitions : List PartitionInfo}
    (stacked : Stacked start partitions next)
    (bound : start.toNat + alignedTotal partitions < 18446744073709551616) :
    Placed start.toNat partitions next.toNat ∧
      next.toNat = start.toNat + alignedTotal partitions := by
  induction stacked with
  | nil start => exact ⟨.nil _, by simp [alignedTotal]⟩
  | @cons partition rest finish stacked induction =>
      rw [alignedTotal_cons] at bound ⊢
      have size : partition.alignedSize.toNat = roundUp partition.size.toNat :=
        toNat_alignedSize (by omega)
      have place : (partition.offset + partition.alignedSize).toNat =
          partition.offset.toNat + roundUp partition.size.toNat := by
        rw [UInt64.toNat_add, size]
        exact Nat.mod_eq_of_lt (by omega)
      rw [place] at induction
      rcases induction (by omega) with ⟨placed, isNext⟩
      exact ⟨.cons size (by omega) placed, by omega⟩

def roundUpDisk (size : Nat) : Nat := (size + 65535) / 65536 * 65536

theorem toNat_diskSize
    (bound : builder.nextDiskOffset.toNat + 16896 + 65535 < 18446744073709551616) :
    builder.diskSize.toNat = roundUpDisk (builder.nextDiskOffset.toNat + 16896) := by
  have align : (1 : UInt64) <<< diskSizeShift = 65536 := by decide
  have mask : ((65536 : UInt64) - 1).toNat = 65535 := by decide
  have width : (65536 : UInt64).toNat = 65536 := by decide
  have table : (16896 : UInt64).toNat = 16896 := by decide
  simp only [CompositeDiskBuilder.diskSize, alignToPowerOf2, align, roundUpDisk]
  rw [UInt64.toNat_mul, UInt64.toNat_div, UInt64.toNat_add, UInt64.toNat_add, mask, width, table]
  omega

structure Layout (builder : CompositeDiskBuilder) : Prop where
  placed : Placed 20480 builder.partitions builder.nextDiskOffset.toNat
  next : builder.nextDiskOffset.toNat = 20480 + alignedTotal builder.partitions
  diskSize : builder.diskSize.toNat =
    roundUpDisk (builder.nextDiskOffset.toNat + 16896)
  bound : builder.nextDiskOffset.toNat + 16896 + 65535 < 18446744073709551616

theorem Built.layout (built : Built host files builder) (fits : Fits builder.partitions) :
    Layout builder := by
  rw [Fits] at fits
  have start : (20480 : UInt64).toNat = 20480 := by decide
  rcases built.stacked.placed (by omega) with ⟨placed, next⟩
  rw [start] at placed next
  exact ⟨placed, next, toNat_diskSize (by omega), by omega⟩

/-! ## The end of the disk -/

theorem endPadding_of_beginning {builder : CompositeDiskBuilder} {beginning : GptBeginning}
    (made : builder.beginning host = .ok beginning) :
    endPadding (builder.gptEnd host beginning) =
      (builder.diskSize / 512 - 1 + 1) * 512 - (builder.nextDiskOffset / 512 - 1 + 1) * 512 -
        16896 := by
  rcases Result.bind_eq_ok.mp made with ⟨_, _, made⟩
  rcases Result.bind_eq_ok.mp made with ⟨used, _, returned⟩
  cases returned
  rfl

theorem alignedTotal_mod (partitions : List PartitionInfo) :
    alignedTotal partitions % 4096 = 0 := by
  induction partitions with
  | nil => rfl
  | cons partition rest induction =>
      rw [alignedTotal_cons]
      rw [roundUp]
      omega

theorem sectors_mul {size : UInt64} (whole : size.toNat % 512 = 0) :
    (size / 512 - 1 + 1) * 512 = size := by
  have sector : (512 : UInt64).toNat = 512 := by decide
  have small := size.toNat_lt
  rw [UInt64.sub_add_cancel, ← UInt64.toNat_inj, UInt64.toNat_mul, UInt64.toNat_div, sector]
  omega

namespace Layout

variable (layout : Layout builder)
include layout

theorem next_mod : builder.nextDiskOffset.toNat % 4096 = 0 := by
  have total := alignedTotal_mod builder.partitions
  have next := layout.next
  omega

theorem diskSize_mod : builder.diskSize.toNat % 65536 = 0 := by
  rw [layout.diskSize, roundUpDisk]
  omega

theorem next_le_diskSize : builder.nextDiskOffset.toNat + 16896 ≤ builder.diskSize.toNat := by
  rw [layout.diskSize, roundUpDisk]
  omega

theorem endPadding {beginning : GptBeginning}
    (made : builder.beginning host = .ok beginning) :
    (endPadding (builder.gptEnd host beginning)).toNat =
      builder.diskSize.toNat - builder.nextDiskOffset.toNat - 16896 := by
  have nextMod := layout.next_mod
  have sizeMod := layout.diskSize_mod
  have order := layout.next_le_diskSize
  have table : (16896 : UInt64).toNat = 16896 := by decide
  rw [endPadding_of_beginning made, sectors_mul (by omega), sectors_mul (by omega)]
  have room : (builder.diskSize - builder.nextDiskOffset).toNat =
      builder.diskSize.toNat - builder.nextDiskOffset.toNat :=
    UInt64.toNat_sub_of_le _ _ (by rw [UInt64.le_iff_toNat_le]; omega)
  rw [UInt64.toNat_sub_of_le _ _ (by rw [UInt64.le_iff_toNat_le, room]; omega), room, table]

end Layout

end Cuttlefish.ImageAggregator
