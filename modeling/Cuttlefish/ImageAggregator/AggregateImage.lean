import Cuttlefish.ImageAggregator.CompositeDiskBuilder

/-! # Aggregating images into a disk

`AggregateImage`: sparse images are made raw, the partition table is built from
the sizes of the images, and table, images and backup table are written one after
another. -/

namespace Cuttlefish.ImageAggregator

open Fs

def deAndroidSparse (host : Host) (outputDirectory : Path) :
    FileSystem → List ImagePartition → Result (List ImagePartition × FileSystem)
  | files, [] => .ok ([], files)
  | files, partition :: rest => do
      let (path, files) ← forceRawImage host files partition.imageFilePath outputDirectory
      let (others, files) ← deAndroidSparse host outputDirectory files rest
      return ({ partition with imageFilePath := path } :: others, files)

def deAndroidSparseIfNeeded (host : Host) (files : FileSystem)
    (partitions : List ImagePartition) (outputDirectory : Path) (readOnly : Bool) :
    Result (List ImagePartition × FileSystem) :=
  if readOnly then .ok (partitions, files)
  else deAndroidSparse host outputDirectory files partitions

def writeChecked (host : Host) (operation : Operation) (outputPath : Path)
    (files : FileSystem) (buf : Bytes) (message : String) : Result FileSystem :=
  let (written, files) := writeAllTo (host.transfers operation) files outputPath buf
  if written = buf.length then .ok files else .error (.err message)

def writeBeginning (host : Host) (outputPath : Path) (files : FileSystem)
    (beginning : GptBeginning) : Result FileSystem :=
  writeChecked host .writeBeginning outputPath files beginning.encode
    ("Could not write GPT beginning to '" ++ outputPath ++ "': " ++ host.strError)

def endPadding (gptEnd : GptEnd) : UInt64 :=
  let diskSize := (gptEnd.footer.currentLba + 1) * 512
  let footerStart := (gptEnd.footer.lastUsableLba + 1) * 512
  diskSize - footerStart - 16896

def writeEnd (host : Host) (outputPath : Path) (files : FileSystem) (gptEnd : GptEnd) :
    Result FileSystem := do
  let message := "Could not write GPT end to '" ++ outputPath ++ "': " ++ host.strError
  let files ← writeChecked host .writeEndPadding outputPath files
    (Bytes.zeros (endPadding gptEnd).toNat) message
  writeChecked host .writeEnd outputPath files gptEnd.encode message

def imagePadding (fileSize : Nat) : UInt64 :=
  alignToPartitionSize (.ofNat fileSize) - .ofNat fileSize

def copyImage (host : Host) (outputPath : Path) (index : Nat) (files : FileSystem)
    (disk : ImagePartition) : Result FileSystem := do
  cfExpect (files.content disk.imageFilePath).isSome host.strError
  let fileSize := files.fileSize disk.imageFilePath
  match copyFrom (host.transfers (.readImage index)) (host.transfers (.writeImage index)) files
      disk.imageFilePath outputPath fileSize with
  | none =>
      .error (.err ("Could not copy from '" ++ disk.imageFilePath ++ "' to '" ++ outputPath ++
        "': " ++ host.strError))
  | some files =>
      writeChecked host (.writePadding index) outputPath files
        (Bytes.zeros (imagePadding fileSize).toNat)
        ("Could not write partition padding to '" ++ outputPath ++ "': " ++ host.strError)

def copyImages (host : Host) (outputPath : Path) :
    (index : Nat) → List ImagePartition → FileSystem → Result FileSystem
  | _, [], files => .ok files
  | index, disk :: rest, files => do
      let files ← copyImage host outputPath index files disk
      copyImages host outputPath (index + 1) rest files

def appendPartitions (host : Host) (files : FileSystem) (partitions : List ImagePartition) :
    CompositeDiskBuilder :=
  partitions.foldl (CompositeDiskBuilder.appendPartitionUnchecked host files) (.new false)

/-- The files after a successful `AggregateImage`. -/
def aggregateImage (host : Host) (files : FileSystem) (partitions : List ImagePartition)
    (outputPath : Path) : Result FileSystem := do
  let (partitions, files) ← deAndroidSparseIfNeeded host files partitions
    (host.dirname outputPath) false
  let builder := appendPartitions host files partitions
  cfExpect (host.creates outputPath) host.strError
  let files := files.set outputPath []
  let beginning ← builder.beginning host
  let files ← writeBeginning host outputPath files beginning
  let files ← copyImages host outputPath 0 partitions files
  writeEnd host outputPath files (builder.gptEnd host beginning)

end Cuttlefish.ImageAggregator
