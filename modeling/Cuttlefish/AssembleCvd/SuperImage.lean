import Cuttlefish.Foundation.Decimal
import Cuttlefish.Fs.FileSystem
import Cuttlefish.Result
import Mathlib.Algebra.GroupWithZero.Nat

/-! # Logical partitions of a super image

`PartitionExtents` and `ExtractPartition` of `super_image.cc`. -/

namespace Cuttlefish.AssembleCvd.SuperImage

open Fs Bytes

inductive TargetType
  | linear
  | zero
  | other (value : UInt32)
  deriving DecidableEq

structure LpMetadataExtent where
  numSectors : UInt64
  targetType : TargetType
  targetData : UInt64
  deriving DecidableEq

structure LpMetadataPartition where
  name : Text
  firstExtentIndex : UInt32
  numExtents : UInt32

structure LpMetadata where
  partitions : List LpMetadataPartition
  extents : List LpMetadataExtent

def lpSectorSize : UInt64 := 512

/-! ## The extents of a partition -/

def consumeSuffix (name suffix : Text) : Text :=
  if suffix <:+ name then name.take (name.length - suffix.length) else name

def withoutSlotSuffix (name : Text) : Text :=
  consumeSuffix (consumeSuffix name "_a".toList) "_b".toList

def matchesName (name : Text) (partition : LpMetadataPartition) : Bool :=
  name = partition.name || name = withoutSlotSuffix partition.name

def readExtents (extents : List LpMetadataExtent) (firstExtentIndex : UInt32) :
    (remaining : Nat) → (i : UInt32) → Result (List LpMetadataExtent)
  | 0, _ => .ok []
  | remaining + 1, i => do
      let index := (i + firstExtentIndex).toNat
      cfExpect (index ≤ extents.length) "i + partition.first_extent_index"
      match extents[index]? with
      | none => .error (.abort "metadata.extents")
      | some extent => return extent :: (← readExtents extents firstExtentIndex remaining (i + 1))

def partitionExtents (metadata : LpMetadata) (name : Text) : Result (List LpMetadataExtent) :=
  match metadata.partitions.find? (matchesName name) with
  | some partition =>
      readExtents metadata.extents partition.firstExtentIndex partition.numExtents.toNat 0
  | none => .error (.err "Could not find partition")

/-! ## Extraction -/

def lseek (file : OpenFile) (position : Int) : Result OpenFile :=
  if 0 ≤ position ∧ position ≤ maxFileSize then .ok (file.lseek position.toNat)
  else .error (.err "lseek")

/-- `CopyFrom` from a position of the super image. Every `read(2)` and `write(2)` transfers all
it can. -/
def copyFrom (source : Bytes) (length position : Nat) (file : OpenFile) : Result OpenFile :=
  match copyLoop (fun _ => .upTo preferredBufferSize) (fun _ => .upTo preferredBufferSize)
      (fun _ => source) length 0 0 length position file with
  | none => .error (.err "CopyFrom")
  | some file => .ok file

def offT (value : UInt64) : Int := (value.toNat : Int).bmod 18446744073709551616

def extractExtent (source : Bytes) (file : OpenFile) (extent : LpMetadataExtent) :
    Result OpenFile :=
  let length := extent.numSectors * lpSectorSize
  match extent.targetType with
  | .linear => do
      let offset := extent.targetData * lpSectorSize
      cfExpect (offT offset = offset.toNat && offset.toNat ≤ maxFileSize) "source->StrError()"
      copyFrom source length.toNat offset.toNat file
  | .zero => lseek file (file.position + offT length)
  | .other _ => .error (.err "Unknown target_type")

def extractPartition (source : Bytes) (extents : List LpMetadataExtent) (destination : OpenFile) :
    Result OpenFile := do
  let destination ← lseek destination 0
  extents.foldlM (extractExtent source) destination

/-- `ImageFile` of a partition that has not been extracted before, into a new file. -/
def imageFile (superImage : Bytes) (metadata : LpMetadata) (name : Text) : Result Bytes := do
  let extents ← partitionExtents metadata name
  let destination ← extractPartition superImage extents ⟨[], 0⟩
  return destination.content

/-! ## What the extents describe -/

def LpMetadataExtent.size (extent : LpMetadataExtent) : Nat := extent.numSectors.toNat * 512

def LpMetadataExtent.start (extent : LpMetadataExtent) : Nat := extent.targetData.toNat * 512

/-- A linear extent inside of the super image, or zeros. -/
def LpMetadataExtent.LiesIn (superImage : Bytes) (extent : LpMetadataExtent) : Prop :=
  (extent.targetType = .linear ∧ extent.start + extent.size ≤ superImage.length) ∨
    extent.targetType = .zero

def LpMetadataExtent.bytes (superImage : Bytes) (extent : LpMetadataExtent) : Bytes :=
  match extent.targetType with
  | .linear => superImage.readAt extent.start extent.size
  | _ => zeros extent.size

def totalSize (extents : List LpMetadataExtent) : Nat := (extents.map (·.size)).sum

/-- The zeros behind the last linear extent that is not empty. -/
def trailingZerosFrom : Nat → List LpMetadataExtent → Nat
  | pending, [] => pending
  | pending, extent :: extents =>
      match extent.targetType with
      | .linear => trailingZerosFrom (if extent.size = 0 then pending else 0) extents
      | _ => trailingZerosFrom (pending + extent.size) extents

/-- The file is the concatenation of the extents. -/
def ExtractsExactly (superImage : Bytes) (extents : List LpMetadataExtent) : Prop :=
  ∃ file, extractPartition superImage extents ⟨[], 0⟩ = .ok file ∧
    file.content = extents.flatMap (·.bytes superImage)

/-- No extent behind the end of the list is read. -/
def ReadsInside (metadata : LpMetadata) (name : Text) : Prop :=
  ∀ message, partitionExtents metadata name ≠ .error (.abort message)

end Cuttlefish.AssembleCvd.SuperImage
