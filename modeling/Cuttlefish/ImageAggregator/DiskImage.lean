import Cuttlefish.Fs.FileSystem
import Cuttlefish.ImageAggregator.Gpt

/-! # Disk images

`ImageFromFile` and the formats it tells apart, and `ForceRawImage`, which
replaces an Android-Sparse image by a raw one. -/

namespace Cuttlefish.ImageAggregator

open Fs

inductive Operation
  | writeBeginning
  | readImage (image : Nat)
  | writeImage (image : Nat)
  | writePadding (image : Nat)
  | writeEndPadding
  | writeEnd
  deriving DecidableEq, Repr

/-- What the host, its tools and its libraries do. -/
structure Host where
  /-- `realpath(3)`. -/
  realpath : Path → Option Path
  acquiresLock : Path → Bool
  isWritable : Path → Bool
  ensureDirectoryExists : Path → Bool
  dirname : Path → Path
  basename : Path → Path
  simg2img : Bytes → Except Int Bytes
  renames : Path → Path → Bool
  sparseFileLen : Bytes → Option UInt64
  compositeDiskLength : Bytes → Option UInt64
  crc32 : Bytes → UInt32
  random : Nat → Guid
  uninitialized : Nat → UInt8
  creates : Path → Bool
  transfers : Operation → Nat → Transfer
  strError : String

/-! ## Formats -/

/-- `"composite_disk\x1d"`. -/
def compositeDiskMagic : Bytes :=
  [0x63, 0x6f, 0x6d, 0x70, 0x6f, 0x73, 0x69, 0x74, 0x65, 0x5f, 0x64, 0x69, 0x73, 0x6b, 0x1d]

/-- `"QFI\xfb"`. -/
def qcow2Magic : Bytes := [0x51, 0x46, 0x49, 0xfb]

/-- `"\x3A\xFF\x26\xED"`. -/
def androidSparseImageMagic : Bytes := [0x3A, 0xFF, 0x26, 0xED]

inductive DiskImage
  | compositeDisk (length : UInt64)
  | qcow2 (size : UInt64)
  | androidSparse (length : UInt64)
  | raw (size : UInt64)
  deriving DecidableEq, Repr

def DiskImage.virtualSizeBytes : DiskImage → UInt64
  | compositeDisk length => length
  | qcow2 size => size
  | androidSparse length => length
  | raw size => size

def imageOfContent (host : Host) (content : Bytes) : Result DiskImage :=
  let magic := content.take 4096
  if compositeDiskMagic.isPrefixOf magic then
    match host.compositeDiskLength (content.drop compositeDiskMagic.length) with
    | some length => .ok (.compositeDisk length)
    | none => .error (.err "cdisk.ParseFromString(message)")
  else if qcow2Magic.isPrefixOf magic then
    if content.length < 72 then .error (.err "ReadExactBinary(fd, &impl->header_)")
    else .ok (.qcow2 (.ofNat (LittleEndian.decode (content.readAt 24 8).reverse)))
  else if androidSparseImageMagic.isPrefixOf magic then
    match host.sparseFileLen content with
    | some length => .ok (.androidSparse length)
    | none => .error (.err "impl->raw_sparse_file.get()")
  else .ok (.raw (.ofNat content.length))

def imageFromFile (host : Host) (files : FileSystem) (filePath : Path) : Result DiskImage :=
  match files.content filePath with
  | none => .error (.err ("Could not open '" ++ filePath ++ "': " ++ host.strError))
  | some content => imageOfContent host content

def expandedStorageSize (host : Host) (files : FileSystem) (filePath : Path) :
    Result UInt64 := do
  let disk ← imageFromFile host files filePath
  return disk.virtualSizeBytes

/-! ## Android-Sparse images -/

def isSparse (content : Bytes) : Bool :=
  (content ++ List.replicate 4 0x20).take 4 == androidSparseImageMagic

def isSparseImage (files : FileSystem) (imagePath : Path) : Result Bool :=
  match files.content imagePath with
  | none => .error (.err ("Could not open '" ++ imagePath ++ "'"))
  | some content => .ok (isSparse content)

def acquireLockForImage (host : Host) (files : FileSystem) (imagePath : Path) :
    Result FileSystem :=
  match host.realpath imagePath with
  | none => .error (.err "android::base::Realpath(image_path, &image_realpath)")
  | some imageRealpath =>
      let lockPath := imageRealpath ++ ".lock"
      if host.acquiresLock lockPath then .ok (files.create lockPath)
      else .error (.err ("Failed to open '" ++ lockPath ++ "': '" ++ host.strError ++ "'"))

def rawImagePath (host : Host) (outputDirectory imagePath : Path) : Path :=
  if host.isWritable (host.dirname imagePath) then imagePath
  else outputDirectory ++ "/" ++ host.basename imagePath ++ ".raw"

def tmpRawImagePath (host : Host) (outputDirectory imagePath : Path) : Path :=
  if host.isWritable (host.dirname imagePath) then imagePath ++ ".raw.tmp"
  else rawImagePath host outputDirectory imagePath ++ ".tmp"

def ensureOutputDirectory (host : Host) (outputDirectory imagePath : Path) : Result Unit :=
  if host.isWritable (host.dirname imagePath) then .ok ()
  else do
    cfExpect (outputDirectory ≠ "") "!output_directory.empty()"
    cfExpect (host.ensureDirectoryExists outputDirectory)
      "EnsureDirectoryExists(output_directory)"

def convertSparseImage (host : Host) (files : FileSystem) (outputDirectory imagePath : Path)
    (content : Bytes) : Result (Path × FileSystem) := do
  let rawPath := rawImagePath host outputDirectory imagePath
  let tmpPath := tmpRawImagePath host outputDirectory imagePath
  ensureOutputDirectory host outputDirectory imagePath
  match host.simg2img content with
  | .error status =>
      .error (.err ("Unable to convert Android sparse image '" ++ imagePath ++
        "' to raw image: " ++ toString status))
  | .ok raw =>
      cfExpect (host.renames tmpPath rawPath) ("rename('" ++ tmpPath ++ "', '" ++ rawPath ++
        "') failed: " ++ host.strError)
      return (rawPath, (files.set tmpPath raw).rename tmpPath rawPath raw)

/-- `ForceRawImage`: the path of a raw image with the content of the given one. The
second look at the image is taken with the lock held. -/
def forceRawImage (host : Host) (files : FileSystem) (imagePath outputDirectory : Path) :
    Result (Path × FileSystem) := do
  if !(← isSparseImage files imagePath) then return (imagePath, files)
  let files ← acquireLockForImage host files imagePath
  if !(← isSparseImage files imagePath) then return (imagePath, files)
  convertSparseImage host files outputDirectory imagePath ((files.content imagePath).getD [])

variable {host : Host} {files final : FileSystem} {imagePath outputDirectory path : Path}
  {content raw : Bytes}

theorem forceRawImage_of_raw (stored : files.content imagePath = some content)
    (isRaw : isSparse content = false) :
    forceRawImage host files imagePath outputDirectory = .ok (imagePath, files) := by
  simp [forceRawImage, isSparseImage, stored, isRaw, bind, Except.bind, pure, Except.pure]

theorem acquireLockForImage_eq_ok
    (locked : acquireLockForImage host files imagePath = .ok final) :
    ∃ lockPath, final = files.create lockPath := by
  rw [acquireLockForImage] at locked
  cases real : host.realpath imagePath with
  | none => simp [real] at locked
  | some imageRealpath =>
      simp only [real] at locked
      split at locked
      · exact ⟨_, (Except.ok.inj locked).symm⟩
      · contradiction

theorem convertSparseImage_eq_ok
    (converted : convertSparseImage host files outputDirectory imagePath content =
      .ok (path, final)) :
    path = rawImagePath host outputDirectory imagePath ∧
      ∃ raw, host.simg2img content = .ok raw ∧
        final = (files.set (tmpRawImagePath host outputDirectory imagePath) raw).rename
          (tmpRawImagePath host outputDirectory imagePath) path raw := by
  rcases Result.bind_eq_ok.mp converted with ⟨_, _, converted⟩
  cases outcome : host.simg2img content with
  | error status => simp [outcome] at converted
  | ok raw =>
      simp only [outcome] at converted
      rcases Result.bind_eq_ok.mp converted with ⟨_, _, returned⟩
      cases returned
      exact ⟨rfl, raw, rfl, rfl⟩

theorem forceRawImage_of_sparse (stored : files.content imagePath = some content)
    (sparse : isSparse content = true)
    (forced : forceRawImage host files imagePath outputDirectory = .ok (path, final)) :
    path = rawImagePath host outputDirectory imagePath ∧
      ∃ raw lockPath, host.simg2img content = .ok raw ∧
        final = ((files.create lockPath).set
          (tmpRawImagePath host outputDirectory imagePath) raw).rename
          (tmpRawImagePath host outputDirectory imagePath) path raw := by
  have look : isSparseImage files imagePath = .ok true := by
    simp [isSparseImage, stored, sparse]
  rcases Result.bind_eq_ok.mp forced with ⟨first, firstLook, forced⟩
  rw [look] at firstLook
  cases firstLook
  rcases Result.bind_eq_ok.mp forced with ⟨locked, lock, forced⟩
  rcases acquireLockForImage_eq_ok lock with ⟨lockPath, isLocked⟩
  have storedLocked : locked.content imagePath = some content :=
    isLocked ▸ files.content_create stored
  have lookAgain : isSparseImage locked imagePath = .ok true := by
    simp [isSparseImage, storedLocked, sparse]
  rcases Result.bind_eq_ok.mp forced with ⟨second, secondLook, forced⟩
  rw [lookAgain] at secondLook
  cases secondLook
  rw [storedLocked] at forced
  rcases convertSparseImage_eq_ok forced with ⟨isPath, raw, converted, isFinal⟩
  exact ⟨isPath, raw, lockPath, converted, by rw [isFinal, isLocked]⟩

end Cuttlefish.ImageAggregator
