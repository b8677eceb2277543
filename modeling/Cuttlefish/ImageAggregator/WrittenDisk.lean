import Mathlib.Data.List.Forall2
import Cuttlefish.ImageAggregator.RawImages

/-! # The disk that `AggregateImage` writes

What each step of a successful run appends to the output, which images the table
is made of, and where the sectors of its entries lie. -/

namespace Cuttlefish.ImageAggregator

open Fs

variable {host : Host} {files final : FileSystem} {outputPath : Path}

/-! ## Writing -/

/-- An image as it is written, up to the next multiple of 4096. -/
def padded (raw : Bytes) : Bytes := raw ++ Bytes.zeros (roundUp raw.length - raw.length)

theorem toNat_imagePadding {size : Nat} (bound : size ≤ maxFileSize) :
    (imagePadding size).toNat = roundUp size - size := by
  have small : size < 18446744073709551616 := by
    rw [maxFileSize] at bound
    omega
  have toNat : (UInt64.ofNat size).toNat = size := UInt64.toNat_ofNat_of_lt small
  have aligned : (alignToPartitionSize (.ofNat size)).toNat = roundUp size := by
    rw [toNat_alignToPartitionSize, toNat]
    rw [maxFileSize] at bound
    omega
  have ordered : UInt64.ofNat size ≤ alignToPartitionSize (.ofNat size) := by
    rw [UInt64.le_iff_toNat_le, toNat, aligned]
    exact le_roundUp size
  rw [imagePadding, UInt64.toNat_sub_of_le _ _ ordered, aligned, toNat]

theorem writeChecked_eq_ok {operation : Operation} {buf written : Bytes} {message : String}
    (stored : files.content outputPath = some written)
    (wrote : writeChecked host operation outputPath files buf message = .ok final) :
    final = files.set outputPath (written ++ buf) ∧
      written.length + buf.length ≤ maxFileSize := by
  rw [writeChecked] at wrote
  dsimp only at wrote
  split at wrote
  case isTrue complete =>
    have result := writeAllTo_complete stored complete
    cases wrote
    exact result
  case isFalse => contradiction

theorem copyImage_eq_ok {index : Nat} {disk : ImagePartition} {raw written : Bytes}
    (whole : WholeBuffers (host.transfers (.writeImage index)))
    (distinct : disk.imageFilePath ≠ outputPath)
    (image : files.content disk.imageFilePath = some raw)
    (stored : files.content outputPath = some written)
    (bound : written.length ≤ maxFileSize)
    (copied : copyImage host outputPath index files disk = .ok final) :
    final = files.set outputPath (written ++ padded raw) ∧
      (written ++ padded raw).length ≤ maxFileSize := by
  rcases Result.bind_eq_ok.mp copied with ⟨_, _, copied⟩
  have size : files.fileSize disk.imageFilePath = raw.length := by
    rw [FileSystem.fileSize, image]
  rw [size] at copied
  cases outcome : copyFrom (host.transfers (.readImage index))
      (host.transfers (.writeImage index)) files disk.imageFilePath outputPath raw.length with
  | none => simp [outcome] at copied
  | some middle =>
      simp only [outcome] at copied
      rcases copyFrom_whole whole distinct image stored bound outcome with ⟨isMiddle, fits⟩
      have middleStored : middle.content outputPath = some (written ++ raw) := by
        rw [isMiddle, FileSystem.content_set_self]
      rcases writeChecked_eq_ok middleStored copied with ⟨isFinal, padFits⟩
      have padding : (imagePadding raw.length).toNat = roundUp raw.length - raw.length :=
        toNat_imagePadding (by omega)
      rw [padding, List.append_assoc] at isFinal
      rw [padding] at padFits
      refine ⟨?_, ?_⟩
      · rw [isFinal, isMiddle, FileSystem.set_set]
        rfl
      · simpa [padded, Nat.add_assoc] using padFits

theorem copyImages_eq_ok {rawOf : ImagePartition → Bytes}
    (whole : ∀ index, WholeBuffers (host.transfers (.writeImage index))) :
    ∀ {disks : List ImagePartition} {index : Nat} {files final : FileSystem}
      {written : Bytes},
      (∀ disk ∈ disks, disk.imageFilePath ≠ outputPath ∧
        files.content disk.imageFilePath = some (rawOf disk)) →
      files.content outputPath = some written → written.length ≤ maxFileSize →
      copyImages host outputPath index disks files = .ok final →
      final = files.set outputPath (written ++ disks.flatMap fun disk => padded (rawOf disk)) ∧
        (written ++ disks.flatMap fun disk => padded (rawOf disk)).length ≤ maxFileSize
  | [], index, files, final, written => by
      intro _ stored bound copied
      cases copied
      simp [files.set_self stored, bound]
  | disk :: rest, index, files, final, written => by
      intro images stored bound copied
      rcases Result.bind_eq_ok.mp copied with ⟨middle, first, copied⟩
      have image := images disk List.mem_cons_self
      rcases copyImage_eq_ok (whole index) image.1 image.2 stored bound first with
        ⟨isMiddle, fits⟩
      have restImages : ∀ other ∈ rest, other.imageFilePath ≠ outputPath ∧
          middle.content other.imageFilePath = some (rawOf other) := by
        intro other member
        have otherImage := images other (List.mem_cons_of_mem _ member)
        rw [isMiddle, FileSystem.content_set_of_ne _ _ otherImage.1]
        exact otherImage
      have middleStored : middle.content outputPath = some (written ++ padded (rawOf disk)) := by
        rw [isMiddle, FileSystem.content_set_self]
      have result := copyImages_eq_ok whole restImages middleStored fits copied
      rw [List.flatMap_cons, ← List.append_assoc]
      rw [isMiddle, FileSystem.set_set] at result
      exact result

theorem writeEnd_eq_ok {gptEnd : GptEnd} {written : Bytes}
    (stored : files.content outputPath = some written)
    (wrote : writeEnd host outputPath files gptEnd = .ok final) :
    ∃ tail, final.content outputPath = some (written ++ tail) := by
  rcases Result.bind_eq_ok.mp wrote with ⟨middle, first, wrote⟩
  rcases writeChecked_eq_ok stored first with ⟨isMiddle, _⟩
  have middleStored := isMiddle ▸ FileSystem.content_set_self files outputPath _
  rcases writeChecked_eq_ok middleStored wrote with ⟨isFinal, _⟩
  refine ⟨Bytes.zeros (endPadding gptEnd).toNat ++ gptEnd.encode, ?_⟩
  rw [isFinal, FileSystem.content_set_self, List.append_assoc]

/-! ## Building the table -/

structure HoldsRaw (host : Host) (files : FileSystem) (disk : ImagePartition) (raw : Bytes) :
    Prop where
  stored : files.content disk.imageFilePath = some raw
  recorded : (imageOfContent host raw).map DiskImage.virtualSizeBytes =
    .ok (.ofNat raw.length)
  bound : raw.length ≤ maxFileSize

theorem expandedStorageSize_of_holdsRaw {disk : ImagePartition} {raw : Bytes}
    (holds : HoldsRaw host files disk raw) :
    expandedStorageSize host files disk.imageFilePath = .ok (.ofNat raw.length) := by
  have recorded := holds.recorded
  rw [expandedStorageSize, imageFromFile, holds.stored]
  cases image : imageOfContent host raw with
  | error failure => simp [image, Except.map] at recorded
  | ok disk =>
      rw [image] at recorded
      dsimp only
      rw [image]
      exact recorded

theorem alignToPartitionSize_eq_self_iff {size : Nat} (bound : size ≤ maxFileSize) :
    UInt64.ofNat size = alignToPartitionSize (.ofNat size) ↔ size % 4096 = 0 := by
  rw [maxFileSize] at bound
  have toNat : (UInt64.ofNat size).toNat = size :=
    UInt64.toNat_ofNat_of_lt (by change size < 18446744073709551616; omega)
  rw [← UInt64.toNat_inj, toNat_alignToPartitionSize (by omega), toNat,
    ← roundUp_eq_self_iff size]
  exact eq_comm

def partitionInfo (disk : ImagePartition) (raw : Bytes) (offset : UInt64) : PartitionInfo where
  source := disk
  size := .ofNat raw.length
  offset := offset

theorem appendPartitionUnchecked_eq {builder : CompositeDiskBuilder} {disk : ImagePartition}
    {raw : Bytes} (writable : builder.readOnly = false)
    (holds : HoldsRaw host files disk raw) :
    builder.appendPartitionUnchecked host files disk =
      if raw.length % 4096 = 0 then
        { builder with
          partitions := builder.partitions ++ [partitionInfo disk raw builder.nextDiskOffset]
          nextDiskOffset := builder.nextDiskOffset + .ofNat raw.length }
      else builder := by
  have aligned := alignToPartitionSize_eq_self_iff holds.bound
  rw [CompositeDiskBuilder.appendPartitionUnchecked, CompositeDiskBuilder.appendPartition,
    expandedStorageSize_of_holdsRaw holds]
  by_cases multiple : raw.length % 4096 = 0
  · have same := aligned.mpr multiple
    simp [bind, Except.bind, pure, Except.pure, multiple, ← same, partitionInfo]
  · have different := mt aligned.mp multiple
    simp [bind, Except.bind, multiple, different, writable, cfExpect]

theorem length_partitions {rawOf : ImagePartition → Bytes}
    {disks : List ImagePartition} (holds : ∀ disk ∈ disks, HoldsRaw host files disk (rawOf disk))
    {builder : CompositeDiskBuilder} (writable : builder.readOnly = false) :
    (disks.foldl (CompositeDiskBuilder.appendPartitionUnchecked host files)
      builder).partitions.length =
      builder.partitions.length +
        (disks.filter fun disk => (rawOf disk).length % 4096 = 0).length := by
  induction disks generalizing builder with
  | nil => simp
  | cons disk rest induction =>
      have restHolds := fun other member => holds other (List.mem_cons_of_mem disk member)
      rw [List.foldl_cons, appendPartitionUnchecked_eq writable (holds disk List.mem_cons_self)]
      by_cases multiple : (rawOf disk).length % 4096 = 0
      · rw [if_pos multiple, induction restHolds (by exact writable),
          List.filter_cons_of_pos (by simpa using multiple)]
        simp only [List.length_append, List.length_cons, List.length_nil]
        omega
      · rw [if_neg multiple, induction restHolds writable,
          List.filter_cons_of_neg (by simpa using multiple)]

def partitionInfos (rawOf : ImagePartition → Bytes) :
    (offset : Nat) → List ImagePartition → List PartitionInfo
  | _, [] => []
  | offset, disk :: rest =>
      partitionInfo disk (rawOf disk) (.ofNat offset) ::
        partitionInfos rawOf (offset + (rawOf disk).length) rest

theorem partitions_of_aligned {rawOf : ImagePartition → Bytes} {disks : List ImagePartition}
    (holds : ∀ disk ∈ disks, HoldsRaw host files disk (rawOf disk))
    (aligned : ∀ disk ∈ disks, (rawOf disk).length % 4096 = 0)
    {builder : CompositeDiskBuilder} (writable : builder.readOnly = false) {offset : Nat}
    (next : builder.nextDiskOffset = .ofNat offset) :
    (disks.foldl (CompositeDiskBuilder.appendPartitionUnchecked host files)
      builder).partitions = builder.partitions ++ partitionInfos rawOf offset disks := by
  induction disks generalizing builder offset with
  | nil => simp [partitionInfos]
  | cons disk rest induction =>
      have restHolds := fun other member => holds other (List.mem_cons_of_mem disk member)
      have restAligned := fun other member => aligned other (List.mem_cons_of_mem disk member)
      rw [List.foldl_cons, appendPartitionUnchecked_eq writable (holds disk List.mem_cons_self),
        if_pos (aligned disk List.mem_cons_self)]
      rw [induction restHolds restAligned (by exact writable)
        (by rw [next, ← UInt64.ofNat_add] : _ = UInt64.ofNat (offset + (rawOf disk).length))]
      rw [partitionInfos, List.append_assoc, next]
      rfl

/-! ## Entries -/

theorem entry_eq_ok {index : Nat} {partition : PartitionInfo} {entry : GptPartitionEntry}
    (made : CompositeDiskBuilder.entry host index partition = .ok entry) :
    getPartitionGuid partition.source.type = .ok entry.partitionTypeGuid ∧
      entry.partitionName = .ofLabel partition.source.label ∧
      entry.firstLba = partition.offset / 512 ∧
      entry.lastLba = (partition.offset + partition.alignedSize) / 512 - 1 := by
  rcases Result.bind_eq_ok.mp made with ⟨guid, known, returned⟩
  cases returned
  exact ⟨known, rfl, rfl, rfl⟩

theorem entries_eq_ok {index : Nat} {partitions : List PartitionInfo}
    {used : List GptPartitionEntry}
    (made : CompositeDiskBuilder.entries host index partitions = .ok used) :
    used.length = partitions.length ∧ ∀ entry ∈ used, entry.partitionTypeGuid ≠ .zero := by
  induction partitions generalizing index used with
  | nil =>
      cases made
      simp
  | cons partition rest induction =>
      rcases Result.bind_eq_ok.mp made with ⟨first, firstMade, made⟩
      rcases Result.bind_eq_ok.mp made with ⟨others, othersMade, returned⟩
      cases returned
      rcases induction othersMade with ⟨sameLength, typed⟩
      refine ⟨by simp [sameLength], ?_⟩
      intro entry member
      rcases List.mem_cons.mp member with isFirst | later
      · rw [isFirst]
        exact getPartitionGuid_ne_zero (entry_eq_ok firstMade).1
      · exact typed entry later

theorem sectors_of_entry {index offset : Nat} {disk : ImagePartition} {raw : Bytes}
    {entry : GptPartitionEntry}
    (made : CompositeDiskBuilder.entry host index (partitionInfo disk raw (.ofNat offset)) =
      .ok entry)
    (aligned : raw.length % 4096 = 0) (start : offset % 4096 = 0) (positive : 0 < offset)
    (bound : offset + raw.length ≤ maxFileSize) :
    entry.firstLba.toNat * sectorSize = offset ∧
      (entry.lastLba.toNat + 1) * sectorSize = offset + raw.length := by
  rcases entry_eq_ok made with ⟨_, _, isFirst, isLast⟩
  rw [maxFileSize] at bound
  have offsetNat : (UInt64.ofNat offset).toNat = offset :=
    UInt64.toNat_ofNat_of_lt (by change offset < 18446744073709551616; omega)
  have size := (alignToPartitionSize_eq_self_iff (by unfold maxFileSize; omega)).mpr aligned
  have endNat : (UInt64.ofNat offset + UInt64.ofNat raw.length).toNat = offset + raw.length := by
    rw [← UInt64.ofNat_add]
    exact UInt64.toNat_ofNat_of_lt
      (by change offset + raw.length < 18446744073709551616; omega)
  have sector : (512 : UInt64).toNat = 512 := by decide
  have one : (1 : UInt64) ≤ (UInt64.ofNat offset + UInt64.ofNat raw.length) / 512 := by
    rw [UInt64.le_iff_toNat_le, UInt64.toNat_div, endNat, sector]
    change 1 ≤ _
    omega
  have oneNat : (1 : UInt64).toNat = 1 := by decide
  simp only [partitionInfo, PartitionInfo.alignedSize, ← size] at isFirst isLast
  rw [isFirst, isLast, UInt64.toNat_sub_of_le _ _ one, UInt64.toNat_div, UInt64.toNat_div,
    endNat, offsetNat, sector, oneNat]
  rw [sectorSize]
  omega

theorem entries_hold_images {rawOf : ImagePartition → Bytes} {disks : List ImagePartition}
    {index : Nat} {used : List GptPartitionEntry} {front : Bytes} (tail : Bytes)
    (made : CompositeDiskBuilder.entries host index (partitionInfos rawOf front.length disks) =
      .ok used)
    (aligned : ∀ disk ∈ disks, (rawOf disk).length % 4096 = 0)
    (start : front.length % 4096 = 0) (positive : 0 < front.length)
    (bound : (front ++ disks.flatMap rawOf).length ≤ maxFileSize) :
    List.Forall₂ (fun entry disk =>
        getPartitionGuid disk.type = .ok entry.partitionTypeGuid ∧
        entry.partitionName = .ofLabel disk.label ∧
        (entry.lastLba.toNat + 1) * sectorSize ≤
          (front ++ disks.flatMap rawOf ++ tail).length ∧
        readSectors (front ++ disks.flatMap rawOf ++ tail) entry = rawOf disk)
      used disks := by
  induction disks generalizing index used front with
  | nil =>
      cases made
      exact .nil
  | cons disk rest induction =>
      rcases Result.bind_eq_ok.mp made with ⟨first, firstMade, made⟩
      rcases Result.bind_eq_ok.mp made with ⟨others, othersMade, returned⟩
      cases returned
      have diskAligned := aligned disk List.mem_cons_self
      have restAligned := fun other member => aligned other (List.mem_cons_of_mem disk member)
      have whole : front ++ (disk :: rest).flatMap rawOf =
          (front ++ rawOf disk) ++ rest.flatMap rawOf := by
        rw [List.flatMap_cons, List.append_assoc]
      rw [whole] at bound ⊢
      have sectors := sectors_of_entry firstMade diskAligned start positive
        (by simp only [List.length_append] at bound; omega)
      have fields := entry_eq_ok firstMade
      refine .cons ⟨fields.1, fields.2.1, ?_, ?_⟩ ?_
      · rw [sectors.2]
        simp only [List.length_append]
        omega
      · have size : (first.lastLba.toNat + 1 - first.firstLba.toNat) * sectorSize =
            (rawOf disk).length := by
          rw [Nat.sub_mul, sectors.1, sectors.2]
          omega
        rw [readSectors, sectors.1, size, List.append_assoc, List.append_assoc]
        exact (Bytes.readAt_append_right front _ 0 _).trans (Bytes.readAt_zero_length _ _)
      · apply induction (by simpa using othersMade) restAligned
        · rw [List.length_append]
          omega
        · rw [List.length_append]
          omega
        · exact bound

/-! ## The disk -/

/-- What a successful run has read and written: the images `rawOf` of the converted
partitions, the table and the bytes of the disk. -/
structure Written (host : Host) (files : FileSystem) (outputPath : Path)
    (partitions : List ImagePartition) (rawOf : ImagePartition → Bytes)
    (used : List GptPartitionEntry) (converted : FileSystem) (disk : Bytes) : Prop where
  holds : ∀ partition ∈ partitions.map (finalPartition host files outputPath),
    HoldsRaw host converted partition (rawOf partition)
  expanded : ∀ partition ∈ partitions,
    expandedImage host files partition.imageFilePath =
      some (rawOf (finalPartition host files outputPath partition))
  entries : CompositeDiskBuilder.entries host 0 (appendPartitions host converted
    (partitions.map (finalPartition host files outputPath))).partitions = .ok used
  fits : used.length ≤ gptNumPartitions
  layout : ∃ (beginning : GptBeginning) (tail : Bytes), beginning.entries = GptEntries.ofUsed used ∧
    disk = beginning.encode ++ ((partitions.map (finalPartition host files outputPath)).flatMap
      fun partition => padded (rawOf partition)) ++ tail ∧
    (beginning.encode ++ ((partitions.map (finalPartition host files outputPath)).flatMap
      fun partition => padded (rawOf partition))).length ≤ maxFileSize

theorem beginning_eq_ok {builder : CompositeDiskBuilder} {beginning : GptBeginning}
    (made : builder.beginning host = .ok beginning) :
    ∃ used, CompositeDiskBuilder.entries host 0 builder.partitions = .ok used ∧
      used.length ≤ gptNumPartitions ∧ beginning.entries = .ofUsed used := by
  rcases Result.bind_eq_ok.mp made with ⟨_, checked, made⟩
  rcases Result.bind_eq_ok.mp made with ⟨used, usedMade, returned⟩
  cases returned
  have few : builder.partitions.length ≤ gptNumPartitions := by
    simpa using cfExpect_eq_ok.mp checked
  exact ⟨used, usedMade, (entries_eq_ok usedMade).1 ▸ few, rfl⟩

theorem length_le_flatMap {Element : Type} {encode : Element → Bytes} {elements : List Element}
    {element : Element} (member : element ∈ elements) :
    (encode element).length ≤ (elements.flatMap encode).length := by
  rw [List.flatMap_def]
  exact (List.sublist_flatten_of_mem (List.mem_map_of_mem member)).length_le

theorem aggregateImage_written {partitions : List ImagePartition}
    (succeeded : aggregateImage host files partitions outputPath = .ok final)
    (images : ∀ partition ∈ partitions, IsImage host files partition.imageFilePath)
    (separate : Separate host files outputPath (partitions.map ImagePartition.imageFilePath))
    (whole : ∀ index, WholeBuffers (host.transfers (.writeImage index))) :
    ∃ rawOf used converted disk, final.content outputPath = some disk ∧
      Written host files outputPath partitions rawOf used converted disk := by
  rcases Result.bind_eq_ok.mp succeeded with ⟨⟨disks, converted⟩, forced, succeeded⟩
  rcases deAndroidSparse_spec separate images forced with ⟨isDisks, ready⟩
  rcases Result.bind_eq_ok.mp succeeded with ⟨_, _, succeeded⟩
  rcases Result.bind_eq_ok.mp succeeded with ⟨beginning, began, succeeded⟩
  rcases Result.bind_eq_ok.mp succeeded with ⟨afterBeginning, wroteBeginning, succeeded⟩
  rcases Result.bind_eq_ok.mp succeeded with ⟨afterImages, copied, wroteEnd⟩
  let rawOf := fun partition : ImagePartition =>
    (converted.content partition.imageFilePath).getD []
  have expanded : ∀ partition ∈ partitions,
      expandedImage host files partition.imageFilePath =
        some (rawOf (finalPartition host files outputPath partition)) := by
    intro partition member
    rcases images partition member with ⟨raw, isExpanded, _⟩
    simp only [rawOf, ready partition member, isExpanded, Option.getD_some]
  have diskImages : ∀ disk ∈ disks, disk.imageFilePath ≠ outputPath ∧
      converted.content disk.imageFilePath = some (rawOf disk) := by
    intro disk member
    rw [isDisks] at member
    rcases List.mem_map.mp member with ⟨partition, inList, isDisk⟩
    rw [← isDisk, ready partition inList]
    exact ⟨separate.output _ (List.mem_map_of_mem inList), expanded partition inList⟩
  rcases writeChecked_eq_ok (converted.content_set_self outputPath []) wroteBeginning with
    ⟨isAfterBeginning, beginningFits⟩
  rw [FileSystem.set_set, List.nil_append] at isAfterBeginning
  have startImages : ∀ disk ∈ disks, disk.imageFilePath ≠ outputPath ∧
      afterBeginning.content disk.imageFilePath = some (rawOf disk) := by
    intro disk member
    have image := diskImages disk member
    rw [isAfterBeginning, FileSystem.content_set_of_ne _ _ image.1]
    exact image
  have startStored : afterBeginning.content outputPath = some beginning.encode := by
    rw [isAfterBeginning, FileSystem.content_set_self]
  rcases copyImages_eq_ok whole startImages startStored (by simpa using beginningFits) copied with
    ⟨isAfterImages, imagesFit⟩
  have imagesStored := isAfterImages ▸ FileSystem.content_set_self afterBeginning outputPath _
  rcases writeEnd_eq_ok imagesStored wroteEnd with ⟨tail, stored⟩
  rcases beginning_eq_ok began with ⟨used, usedMade, few, table⟩
  refine ⟨rawOf, used, converted, _, stored, ?_, expanded, isDisks ▸ usedMade, few,
    beginning, tail, table, by rw [isDisks], by rw [← isDisks]; exact imagesFit⟩
  rw [← isDisks]
  intro disk member
  refine ⟨(diskImages disk member).2, ?_, ?_⟩
  · rw [isDisks] at member
    rcases List.mem_map.mp member with ⟨partition, inList, isDisk⟩
    rcases images partition inList with ⟨raw, isExpanded, _, recorded⟩
    have same := expanded partition inList
    rw [isExpanded, isDisk, Option.some.injEq] at same
    rw [← same]
    exact recorded
  · have part := @length_le_flatMap _ (fun partition => padded (rawOf partition)) _ _ member
    simp only [padded, List.length_append] at part imagesFit
    omega

end Cuttlefish.ImageAggregator
