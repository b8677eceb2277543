import Cuttlefish.ImageAggregator.DiskLayout
import Cuttlefish.ImageAggregator.WrittenDisk

/-! # What the partition table of an aggregated disk says

When the entries of the table that `AggregateImage` writes describe the images that
were copied. -/

namespace Cuttlefish.ImageAggregator

open Fs

/-- An entry describes a partition: name and type are its own, and its sectors are on
the disk and hold the bytes of its image, followed by zeros. -/
structure Describes (host : Host) (files : FileSystem) (disk : Bytes)
    (entry : GptPartitionEntry) (partition : ImagePartition) : Prop where
  name : entry.partitionName = .ofLabel partition.label
  type : getPartitionGuid partition.type = .ok entry.partitionTypeGuid
  onDisk : (entry.lastLba.toNat + 1) * sectorSize ≤ disk.length
  bytes : ∃ raw padding, expandedImage host files partition.imageFilePath = some raw ∧
    readSectors disk entry = raw ++ Bytes.zeros padding

/-- The table has one entry for each partition, in order. -/
def TableDescribes (host : Host) (files : FileSystem) (partitions : List ImagePartition)
    (disk : Bytes) : Prop :=
  List.Forall₂ (Describes host files disk) (usedEntries disk) partitions

/-- Every image has a size that is a multiple of 4096. -/
def AllAligned (host : Host) (files : FileSystem) (partitions : List ImagePartition) : Prop :=
  ∀ partition ∈ partitions, ∀ raw,
    expandedImage host files partition.imageFilePath = some raw → raw.length % 4096 = 0

variable {host : Host} {files final : FileSystem} {outputPath : Path}
variable {partitions : List ImagePartition} {rawOf : ImagePartition → Bytes}
  {used : List GptPartitionEntry} {converted : FileSystem} {disk : Bytes}

theorem Written.allAligned_iff
    (written : Written host files outputPath partitions rawOf used converted disk) :
    AllAligned host files partitions ↔
      ∀ partition ∈ partitions.map (finalPartition host files outputPath),
        (rawOf partition).length % 4096 = 0 := by
  constructor
  · intro aligned partition member
    rcases List.mem_map.mp member with ⟨source, inList, isPartition⟩
    rw [← isPartition]
    exact aligned source inList _ (written.expanded source inList)
  · intro aligned partition member raw expanded
    rw [written.expanded partition member, Option.some.injEq] at expanded
    rw [← expanded]
    exact aligned _ (List.mem_map_of_mem member)

theorem Written.usedEntries_eq
    (written : Written host files outputPath partitions rawOf used converted disk) :
    usedEntries disk = used := by
  rcases written.layout with ⟨beginning, tail, table, isDisk, _⟩
  rw [isDisk, List.append_assoc]
  exact usedEntries_of_table written.fits table (entries_eq_ok written.entries).2 _

theorem Written.allAligned_of_length
    (written : Written host files outputPath partitions rawOf used converted disk)
    (sameLength : used.length = partitions.length) : AllAligned host files partitions := by
  rw [written.allAligned_iff]
  have appended := length_partitions written.holds
    (rfl : (CompositeDiskBuilder.new false).readOnly = false)
  change (appendPartitions host converted _).partitions.length = 0 + _ at appended
  rw [← (entries_eq_ok written.entries).1, sameLength, Nat.zero_add,
    ← List.length_map (finalPartition host files outputPath)] at appended
  intro partition member
  have all := List.length_filter_eq_length_iff.mp appended.symm partition member
  simpa using all

theorem flatMap_padded_of_aligned {disks : List ImagePartition}
    (aligned : ∀ disk ∈ disks, (rawOf disk).length % 4096 = 0) :
    (disks.flatMap fun disk => padded (rawOf disk)) = disks.flatMap rawOf := by
  apply List.flatMap_congr
  intro disk member
  have same := (roundUp_eq_self_iff _).mpr (aligned disk member)
  simp [padded, same, Bytes.zeros]

theorem Written.describes_of_aligned
    (written : Written host files outputPath partitions rawOf used converted disk)
    (aligned : AllAligned host files partitions) :
    List.Forall₂ (Describes host files disk) used partitions := by
  rw [written.allAligned_iff] at aligned
  rcases written.layout with ⟨beginning, tail, table, isDisk, bound⟩
  rw [flatMap_padded_of_aligned aligned] at isDisk bound
  have start : (CompositeDiskBuilder.new false).nextDiskOffset =
      .ofNat beginning.encode.length := by
    rw [beginning.length_encode]
    rfl
  have infos := partitions_of_aligned written.holds aligned
    (rfl : (CompositeDiskBuilder.new false).readOnly = false) start
  have made := written.entries
  change (appendPartitions host converted _).partitions = [] ++ _ at infos
  rw [infos, List.nil_append] at made
  have held := entries_hold_images tail made aligned (by rw [beginning.length_encode])
    (by rw [beginning.length_encode]; decide) bound
  rw [← isDisk, List.forall₂_map_right_iff, List.forall₂_iff_zip] at held
  rw [List.forall₂_iff_zip]
  refine ⟨held.1, ?_⟩
  intro entry partition paired
  rcases held.2 paired with ⟨type, name, onDisk, bytes⟩
  refine ⟨name, type, onDisk, _, 0, written.expanded partition (List.of_mem_zip paired).2, ?_⟩
  rw [bytes]
  exact (List.append_nil _).symm

/-- The table of the disk that `AggregateImage` writes describes the images that were
copied exactly when the size of every image is a multiple of 4096. -/
theorem aggregateImage_table_iff
    (succeeded : aggregateImage host files partitions outputPath = .ok final)
    (images : ∀ partition ∈ partitions, IsImage host files partition.imageFilePath)
    (separate : Separate host files outputPath (partitions.map ImagePartition.imageFilePath))
    (whole : ∀ index, WholeBuffers (host.transfers (.writeImage index))) :
    ∃ disk, final.content outputPath = some disk ∧
      (TableDescribes host files partitions disk ↔ AllAligned host files partitions) := by
  rcases aggregateImage_written succeeded images separate whole with
    ⟨rawOf, used, converted, disk, stored, written⟩
  refine ⟨disk, stored, ?_⟩
  rw [TableDescribes, written.usedEntries_eq]
  constructor
  · intro describes
    exact written.allAligned_of_length describes.length_eq
  · intro aligned
    exact written.describes_of_aligned aligned

/-! ## Complete transfers -/

def TransfersBuffers (host : Host) : Prop :=
  ∀ operation, host.transfers operation = fun _ => .upTo preferredBufferSize

theorem writeChecked_of_transfers (transfers : TransfersBuffers host) (operation : Operation)
    {buf written : Bytes} (message : String)
    (stored : files.content outputPath = some written)
    (fits : written.length + buf.length ≤ maxFileSize) :
    writeChecked host operation outputPath files buf message =
      .ok (files.set outputPath (written ++ buf)) := by
  have complete : (writeAllTo (host.transfers operation) files outputPath buf).1 =
      buf.length := by
    rw [transfers operation]
    exact writeAllTo_of_transfers (by decide) stored fits
  have result := writeAllTo_complete stored complete
  simp only [writeChecked, complete, if_true, result.1]

theorem wholeBuffers_of_transfers (transfers : TransfersBuffers host) (operation : Operation) :
    WholeBuffers (host.transfers operation) := by
  intro call count outcome
  rw [transfers operation] at outcome
  cases outcome
  exact Nat.le_refl _

theorem copyImage_of_transfers (transfers : TransfersBuffers host) (index : Nat)
    {disk : ImagePartition} {raw written : Bytes} (distinct : disk.imageFilePath ≠ outputPath)
    (image : files.content disk.imageFilePath = some raw)
    (stored : files.content outputPath = some written)
    (fits : (written ++ padded raw).length ≤ maxFileSize) :
    copyImage host outputPath index files disk =
      .ok (files.set outputPath (written ++ padded raw)) := by
  have size : files.fileSize disk.imageFilePath = raw.length := by
    rw [FileSystem.fileSize, image]
  have parts : written.length + (raw.length + (roundUp raw.length - raw.length)) ≤
      maxFileSize := by
    simpa [padded] using fits
  have padding := @toNat_imagePadding raw.length (by omega)
  have copied : ∃ middle, copyFrom (host.transfers (.readImage index))
      (host.transfers (.writeImage index)) files disk.imageFilePath outputPath raw.length =
        some middle := by
    rw [transfers (.readImage index), transfers (.writeImage index)]
    exact copyFrom_of_transfers distinct image stored (by omega)
  rcases copied with ⟨middle, copied⟩
  have isMiddle := (copyFrom_whole (wholeBuffers_of_transfers transfers (.writeImage index))
    distinct image stored (by omega) copied).1
  have middleStored : middle.content outputPath = some (written ++ raw) := by
    rw [isMiddle, FileSystem.content_set_self]
  have paddingFits : (written ++ raw).length +
      (Bytes.zeros (imagePadding raw.length).toNat).length ≤ maxFileSize := by
    rw [List.length_append, Bytes.length_zeros]
    omega
  simp only [copyImage, image, size, copied, Option.isSome_some, cfExpect_true, bind, Except.bind]
  rw [writeChecked_of_transfers transfers _ _ middleStored paddingFits, isMiddle,
    FileSystem.set_set, padding, List.append_assoc]
  rfl

theorem writeEnd_of_transfers (transfers : TransfersBuffers host) {gptEnd : GptEnd}
    {written : Bytes} (stored : files.content outputPath = some written)
    (fits : written.length + (endPadding gptEnd).toNat + 16896 ≤ maxFileSize) :
    ∃ final, writeEnd host outputPath files gptEnd = .ok final := by
  have endLength := gptEnd.length_encode
  have gap := writeChecked_of_transfers transfers .writeEndPadding
    ("Could not write GPT end to '" ++ outputPath ++ "': " ++ host.strError) stored
    (by rw [Bytes.length_zeros]; omega :
      _ + (Bytes.zeros (endPadding gptEnd).toNat).length ≤ maxFileSize)
  have footer := writeChecked_of_transfers transfers .writeEnd
    ("Could not write GPT end to '" ++ outputPath ++ "': " ++ host.strError)
    (FileSystem.content_set_self files outputPath
      (written ++ Bytes.zeros (endPadding gptEnd).toNat))
    (by rw [List.length_append, Bytes.length_zeros]; omega :
      _ + gptEnd.encode.length ≤ maxFileSize)
  exact ⟨_, Result.bind_eq_ok.mpr ⟨_, gap, footer⟩⟩

/-! ## One image -/

def crc32 (bytes : Bytes) : UInt32 :=
  let bit (crc : UInt32) : UInt32 :=
    if crc &&& 1 = 1 then (crc >>> 1) ^^^ 0xEDB88320 else crc >>> 1
  let byte (crc : UInt32) (value : UInt8) : UInt32 :=
    bit (bit (bit (bit (bit (bit (bit (bit (crc ^^^ value.toUInt32))))))))
  bytes.foldl byte 0xFFFFFFFF ^^^ 0xFFFFFFFF

/-- A host on which nothing fails, with one image. -/
def sampleHost : Host where
  realpath := some
  acquiresLock _ := true
  isWritable _ := true
  ensureDirectoryExists _ := true
  dirname path := if path = "/out/disk.img" then "/out" else "/images"
  basename path := if path = "/out/disk.img" then "disk.img" else "super.img"
  simg2img _ := .error 255
  renames _ _ := true
  sparseFileLen _ := none
  compositeDiskLength _ := none
  crc32 := crc32
  random _ := .zero
  uninitialized _ := 0
  creates _ := true
  transfers _ _ := .upTo preferredBufferSize
  strError := "Success"

def sampleImage (size : Nat) : Bytes := List.replicate size 7

def sampleFiles (size : Nat) : FileSystem where
  content path := if path = "/images/super.img" then some (sampleImage size) else none

def samplePartition : ImagePartition where
  label := [0x73, 0x75, 0x70, 0x65, 0x72]
  imageFilePath := "/images/super.img"
  type := .linuxFilesystem

@[simp]
theorem length_sampleImage (size : Nat) : (sampleImage size).length = size :=
  List.length_replicate

theorem isSparse_sampleImage (size : Nat) : isSparse (sampleImage size) = false := by
  cases size with
  | zero => decide
  | succ size => simp [isSparse, sampleImage, List.replicate_succ, androidSparseImageMagic]

theorem imageOfContent_sampleImage (size : Nat) :
    imageOfContent sampleHost (sampleImage size) = .ok (.raw (.ofNat size)) := by
  cases size with
  | zero => rfl
  | succ size =>
      simp [imageOfContent, sampleImage, List.replicate_succ, compositeDiskMagic, qcow2Magic,
        androidSparseImageMagic]

theorem content_sampleFiles (size : Nat) :
    (sampleFiles size).content "/images/super.img" = some (sampleImage size) := rfl

theorem expandedImage_sample (size : Nat) :
    expandedImage sampleHost (sampleFiles size) "/images/super.img" =
      some (sampleImage size) := by
  simp [expandedImage, content_sampleFiles, isSparse_sampleImage]

theorem isImage_sample (size : Nat) :
    IsImage sampleHost (sampleFiles size) "/images/super.img" := by
  refine ⟨sampleImage size, expandedImage_sample size, isSparse_sampleImage size, ?_⟩
  rw [imageOfContent_sampleImage]
  simp [Except.map, DiskImage.virtualSizeBytes]

theorem not_hasSparse_sample (size : Nat) :
    ¬ HasSparse (sampleFiles size) "/images/super.img" := by
  simp [HasSparse, content_sampleFiles, isSparse_sampleImage]

theorem separate_sample (size : Nat) :
    Separate sampleHost (sampleFiles size) "/out/disk.img" ["/images/super.img"] := by
  have notSparse := not_hasSparse_sample size
  refine ⟨?_, ?_, ?_⟩
  · intro path member
    rw [List.mem_singleton.mp member, finalImagePath, if_neg notSparse]
    decide
  · intro path member sparse
    rw [List.mem_singleton.mp member] at sparse
    contradiction
  · intro path member other otherMember _
    rw [List.mem_singleton.mp member, List.mem_singleton.mp otherMember]

theorem transfersBuffers_sample : TransfersBuffers sampleHost := fun _ => rfl

theorem deAndroidSparse_sample (size : Nat) :
    deAndroidSparse sampleHost "/out" (sampleFiles size) [samplePartition] =
      .ok ([samplePartition], sampleFiles size) := by
  have raw : forceRawImage sampleHost (sampleFiles size) samplePartition.imageFilePath "/out" =
      .ok (samplePartition.imageFilePath, sampleFiles size) :=
    forceRawImage_of_raw (content_sampleFiles size) (isSparse_sampleImage size)
  rw [deAndroidSparse, raw]
  rfl

theorem aggregateImage_sample {size : Nat} (small : size ≤ 4096) {beginning : GptBeginning}
    (began : (appendPartitions sampleHost (sampleFiles size) [samplePartition]).beginning
      sampleHost = .ok beginning)
    (gap : (endPadding ((appendPartitions sampleHost (sampleFiles size)
      [samplePartition]).gptEnd sampleHost beginning)).toNat ≤ 65536) :
    ∃ final, aggregateImage sampleHost (sampleFiles size) [samplePartition] "/out/disk.img" =
      .ok final := by
  have image : (((sampleFiles size).set "/out/disk.img" []).set "/out/disk.img"
      beginning.encode).content samplePartition.imageFilePath = some (sampleImage size) := rfl
  have imageLength : (padded (sampleImage size)).length ≤ 8192 := by
    simp only [padded, length_sampleImage, List.length_append, Bytes.length_zeros, roundUp]
    omega
  have limit : 200000 ≤ maxFileSize := by decide
  have beginningLength := beginning.length_encode
  have wroteBeginning : writeBeginning sampleHost "/out/disk.img"
      ((sampleFiles size).set "/out/disk.img" []) beginning = .ok _ :=
    writeChecked_of_transfers transfersBuffers_sample .writeBeginning _
      (FileSystem.content_set_self _ _ _) (by simp only [List.length_nil]; omega)
  have copied := copyImage_of_transfers transfersBuffers_sample 0 (by decide) image
    (FileSystem.content_set_self _ "/out/disk.img" _)
    (by rw [List.length_append]; omega)
  have stored := FileSystem.content_set_self (((sampleFiles size).set "/out/disk.img" []).set
    "/out/disk.img" beginning.encode) "/out/disk.img"
    (beginning.encode ++ padded (sampleImage size))
  have endFits : (beginning.encode ++ padded (sampleImage size)).length +
      (endPadding ((appendPartitions sampleHost (sampleFiles size)
        [samplePartition]).gptEnd sampleHost beginning)).toNat + 16896 ≤ maxFileSize := by
    rw [List.length_append]
    omega
  rcases writeEnd_of_transfers transfersBuffers_sample stored endFits with ⟨final, wroteEnd⟩
  have converted : deAndroidSparseIfNeeded sampleHost (sampleFiles size) [samplePartition]
      (sampleHost.dirname "/out/disk.img") false = .ok ([samplePartition], sampleFiles size) :=
    deAndroidSparse_sample size
  have creates : cfExpect (sampleHost.creates "/out/disk.img") sampleHost.strError = .ok () :=
    rfl
  refine ⟨final, ?_⟩
  simp only [aggregateImage, converted, creates, began, wroteBeginning, copyImages, bind,
    Except.bind]
  simp only [List.nil_append, copied]
  exact wroteEnd

theorem holdsRaw_sample {size : Nat} (small : size ≤ 4096) :
    HoldsRaw sampleHost (sampleFiles size) samplePartition (sampleImage size) := by
  have limit : 4096 ≤ maxFileSize := by decide
  refine ⟨content_sampleFiles size, ?_, ?_⟩
  · rw [imageOfContent_sampleImage]
    simp [Except.map, DiskImage.virtualSizeBytes]
  · rw [length_sampleImage]
    omega

theorem appendPartitions_one_page :
    appendPartitions sampleHost (sampleFiles 4096) [samplePartition] =
      { partitions := [partitionInfo samplePartition (sampleImage 4096) 20480]
        nextDiskOffset := 24576
        readOnly := false } := by
  have appended := appendPartitionUnchecked_eq (rfl : (CompositeDiskBuilder.new false).readOnly =
    false) (holdsRaw_sample (Nat.le_refl 4096))
  rw [if_pos (by rw [length_sampleImage])] at appended
  rw [appendPartitions, List.foldl_cons, appended, List.foldl_nil, length_sampleImage]
  rfl

theorem appendPartitions_one_byte :
    appendPartitions sampleHost (sampleFiles 1) [samplePartition] = .new false := by
  have appended := appendPartitionUnchecked_eq (rfl : (CompositeDiskBuilder.new false).readOnly =
    false) (holdsRaw_sample (by decide : 1 ≤ 4096))
  rw [if_neg (by rw [length_sampleImage]; decide)] at appended
  rw [appendPartitions, List.foldl_cons, appended, List.foldl_nil]

theorem aggregateImage_one_page :
    ∃ final, aggregateImage sampleHost (sampleFiles 4096) [samplePartition] "/out/disk.img" =
      .ok final := by
  have began : ∃ beginning, (appendPartitions sampleHost (sampleFiles 4096)
      [samplePartition]).beginning sampleHost = .ok beginning := by
    rw [appendPartitions_one_page]
    exact ⟨_, rfl⟩
  rcases began with ⟨beginning, began⟩
  apply aggregateImage_sample (Nat.le_refl 4096) began
  rw [endPadding_of_beginning began, appendPartitions_one_page]
  decide

theorem aggregateImage_one_byte :
    ∃ final, aggregateImage sampleHost (sampleFiles 1) [samplePartition] "/out/disk.img" =
      .ok final := by
  have began : ∃ beginning, (appendPartitions sampleHost (sampleFiles 1)
      [samplePartition]).beginning sampleHost = .ok beginning := by
    rw [appendPartitions_one_byte]
    exact ⟨_, rfl⟩
  rcases began with ⟨beginning, began⟩
  apply aggregateImage_sample (by decide) began
  rw [endPadding_of_beginning began, appendPartitions_one_byte]
  decide

theorem allAligned_one_page : AllAligned sampleHost (sampleFiles 4096) [samplePartition] := by
  intro partition member raw expanded
  rw [List.mem_singleton.mp member] at expanded
  have same := (expandedImage_sample 4096).symm.trans expanded
  rw [← Option.some.inj same, length_sampleImage]

theorem aggregateImage_table_iff_one_page :
    ∃ final disk, aggregateImage sampleHost (sampleFiles 4096) [samplePartition]
        "/out/disk.img" = .ok final ∧
      final.content "/out/disk.img" = some disk ∧
      TableDescribes sampleHost (sampleFiles 4096) [samplePartition] disk := by
  rcases aggregateImage_one_page with ⟨final, succeeded⟩
  have images : ∀ partition ∈ [samplePartition],
      IsImage sampleHost (sampleFiles 4096) partition.imageFilePath := by
    intro partition member
    rw [List.mem_singleton.mp member]
    exact isImage_sample 4096
  rcases aggregateImage_table_iff succeeded images (separate_sample 4096)
      (fun index => wholeBuffers_of_transfers transfersBuffers_sample (.writeImage index)) with
    ⟨disk, stored, describes⟩
  exact ⟨final, disk, succeeded, stored, describes.mpr allAligned_one_page⟩

/-- An image of one byte is copied, and the table has no entry for it. -/
theorem unaligned_image_has_no_entry :
    ∃ final disk, aggregateImage sampleHost (sampleFiles 1) [samplePartition]
        "/out/disk.img" = .ok final ∧
      final.content "/out/disk.img" = some disk ∧
      ¬ TableDescribes sampleHost (sampleFiles 1) [samplePartition] disk := by
  rcases aggregateImage_one_byte with ⟨final, succeeded⟩
  have images : ∀ partition ∈ [samplePartition],
      IsImage sampleHost (sampleFiles 1) partition.imageFilePath := by
    intro partition member
    rw [List.mem_singleton.mp member]
    exact isImage_sample 1
  rcases aggregateImage_written succeeded images (separate_sample 1)
      (fun index => wholeBuffers_of_transfers transfersBuffers_sample (.writeImage index)) with
    ⟨rawOf, used, converted, disk, stored, written⟩
  refine ⟨final, disk, succeeded, stored, ?_⟩
  intro describes
  rw [TableDescribes, written.usedEntries_eq] at describes
  have aligned := written.allAligned_of_length describes.length_eq samplePartition
    (List.mem_singleton.mpr rfl) _ (expandedImage_sample 1)
  exact absurd aligned (by decide)

end Cuttlefish.ImageAggregator
