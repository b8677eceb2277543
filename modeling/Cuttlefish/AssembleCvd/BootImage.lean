import Cuttlefish.AssembleCvd.PagedParts

/-! # Boot images

`BootImageBuilder` of `boot_image_builder.cc` and `BootImage` of `boot_image.cc`. -/

namespace Cuttlefish.AssembleCvd

open Io

/-! ## Headers

The fields that are used, of the structures of `bootimg.h`. -/

structure BootImgHdrV0 where
  magic : Bytes
  kernelSize : UInt32
  ramdiskSize : UInt32
  pageSize : UInt32
  headerVersion : UInt32
  osVersion : UInt32
  cmdline : Bytes
  extraCmdline : Bytes

structure BootImgHdrV3 where
  magic : Bytes
  kernelSize : UInt32
  ramdiskSize : UInt32
  osVersion : UInt32
  headerSize : UInt32
  headerVersion : UInt32
  cmdline : Bytes

structure BootImgHdrV4 extends BootImgHdrV3 where
  signatureSize : UInt32

/-- How `bootimg.h` lays headers out in memory. Versions 1 and 2 have the fields of version 0. -/
structure Bootimg where
  bootMagic : Bytes
  cmdlineSize : Nat
  sizeofV2 : Nat
  sizeofV4 : Nat
  storeV4 : (memory : Bytes) → BootImgHdrV4 → Bytes
  loadV0 : Bytes → BootImgHdrV0
  loadV3 : Bytes → BootImgHdrV3
  loadV4 : Bytes → BootImgHdrV4

structure Bootimg.Sized (bootimg : Bootimg) (header : BootImgHdrV4) : Prop where
  magic : header.magic.length = bootimg.bootMagic.length
  cmdline : header.cmdline.length = bootimg.cmdlineSize

structure Bootimg.Laws (bootimg : Bootimg) : Prop where
  positive : 0 < bootimg.sizeofV4
  v4_le_v2 : bootimg.sizeofV4 ≤ bootimg.sizeofV2
  onePage : bootimg.sizeofV2 ≤ 4096
  length_cmdline : ∀ {memory : Bytes}, memory.length = bootimg.sizeofV4 →
    (bootimg.loadV4 memory).cmdline.length = bootimg.cmdlineSize
  length_store : ∀ {memory : Bytes} {header : BootImgHdrV4}, memory.length = bootimg.sizeofV4 →
    bootimg.Sized header → (bootimg.storeV4 memory header).length = bootimg.sizeofV4
  loadV4_store : ∀ {memory : Bytes} {header : BootImgHdrV4} (behind : Bytes),
    memory.length = bootimg.sizeofV4 → bootimg.Sized header →
      bootimg.loadV4 (bootimg.storeV4 memory header ++ behind) = header
  magic_store : ∀ {memory : Bytes} {header : BootImgHdrV4} (behind : Bytes),
    memory.length = bootimg.sizeofV4 → bootimg.Sized header →
      (bootimg.loadV0 (bootimg.storeV4 memory header ++ behind)).magic = header.magic
  headerVersion_store : ∀ {memory : Bytes} {header : BootImgHdrV4} (behind : Bytes),
    memory.length = bootimg.sizeofV4 → bootimg.Sized header →
      (bootimg.loadV0 (bootimg.storeV4 memory header ++ behind)).headerVersion =
        header.headerVersion

/-! ## Building -/

structure BootImageBuilder where
  kernelCommandLine : Bytes
  kernel : Option OpenReader
  ramdisk : Option OpenReader
  signature : Option OpenReader
  osVersion : UInt32

namespace BootImageBuilder

def kPageSize : Nat := 4096

def pagePadding (size : Nat) : Result OpenReader := AssembleCvd.pagePadding size kPageSize

/-- The header with these lengths. Its memory is not initialized. -/
def header (bootimg : Bootimg) (memory : Bytes) (builder : BootImageBuilder)
    (kernelSize ramdiskSize signatureSize : Nat) : BootImgHdrV4 :=
  { bootimg.loadV4 memory with
    magic := bootimg.bootMagic
    kernelSize := UInt32.ofNat kernelSize
    ramdiskSize := UInt32.ofNat ramdiskSize
    osVersion := builder.osVersion
    headerSize := UInt32.ofNat bootimg.sizeofV4
    headerVersion := 4
    cmdline := snprintf (bootimg.loadV4 memory).cmdline builder.kernelCommandLine
    signatureSize := UInt32.ofNat signatureSize }

def buildV4 (bootimg : Bootimg) (memory : Bytes) (builder : BootImageBuilder) :
    Result OpenReader := do
  let (kernelSize, kernel) ← partLength builder.kernel
  let (ramdiskSize, ramdisk) ← partLength builder.ramdisk
  cfExpect (builder.kernelCommandLine.length < bootimg.cmdlineSize)
    "kernel_command_line_.size() < sizeof(header.cmdline)"
  let (signatureSize, signature) ← partLength builder.signature
  let header := builder.header bootimg memory kernelSize ramdiskSize signatureSize
  let headerPadding ← pagePadding bootimg.sizeofV4
  let kernelMembers ← partMembers kernel (pagePadding header.kernelSize.toNat)
  let ramdiskMembers ← partMembers ramdisk (pagePadding header.ramdiskSize.toNat)
  let signatureMembers ← partMembers signature (pagePadding header.signatureSize.toNat)
  ConcatReaderSeeker.create
    ([some (.inMemory (.ofData (bootimg.storeV4 memory header))), some headerPadding] ++
      kernelMembers ++ ramdiskMembers ++ signatureMembers)

end BootImageBuilder

/-! ## Reading -/

inductive HeaderVariant
  | v0 (header : BootImgHdrV0)
  | v1 (header : BootImgHdrV0)
  | v2 (header : BootImgHdrV0)
  | v3 (header : BootImgHdrV3)
  | v4 (header : BootImgHdrV4)

structure BootImage where
  reader : OpenReader
  header : HeaderVariant

namespace BootImage

def kBootImagePageSize : Nat := 4096

def read (bootimg : Bootimg) (reader : OpenReader) : Result BootImage := do
  let v2 ← pReadExact (OpenReader.reader.pread reader) bootimg.sizeofV2 0
  cfExpect ((bootimg.loadV0 v2).magic = bootimg.bootMagic) "memcmp(v2.magic, BOOT_MAGIC)"
  match (bootimg.loadV0 v2).headerVersion.toNat with
  | 0 => return ⟨reader, .v0 (bootimg.loadV0 v2)⟩
  | 1 => return ⟨reader, .v1 (bootimg.loadV0 v2)⟩
  | 2 => return ⟨reader, .v2 (bootimg.loadV0 v2)⟩
  | 3 => return ⟨reader, .v3 (bootimg.loadV3 v2)⟩
  | 4 => return ⟨reader, .v4 (bootimg.loadV4 v2)⟩
  | _ => .error (.err "Unknown header version")

def visit {Value : Type} (ofV0 : BootImgHdrV0 → Value) (ofV3 : BootImgHdrV3 → Value) :
    HeaderVariant → Value
  | .v0 header | .v1 header | .v2 header => ofV0 header
  | .v3 header => ofV3 header
  | .v4 header => ofV3 header.toBootImgHdrV3

variable (image : BootImage)

def kernelCommandLine : Result Bytes :=
  visit (fun v0 => do
      let cmdline ← cString v0.cmdline
      let extraCmdline ← cString v0.extraCmdline
      return cmdline ++ extraCmdline)
    (fun v3 => cString v3.cmdline) image.header

def pageSize : Nat := visit (fun v0 => v0.pageSize.toNat) (fun _ => kBootImagePageSize) image.header

def kernelSize : UInt32 := visit (·.kernelSize) (·.kernelSize) image.header

def ramdiskSize : UInt32 := visit (·.ramdiskSize) (·.ramdiskSize) image.header

def osVersion : UInt32 := visit (·.osVersion) (·.osVersion) image.header

def pagesOf (size : UInt32) : Result Nat :=
  if image.pageSize = 0 then .error (.abort "division by zero")
  else .ok (pages image.pageSize size.toNat)

def kernelPages : Result Nat := image.pagesOf image.kernelSize

def ramdiskPages : Result Nat := image.pagesOf image.ramdiskSize

def kernel : OpenReader :=
  ReadWindowView.create image.reader image.pageSize image.kernelSize.toNat

def ramdisk : Result OpenReader := do
  let kernelPages ← image.kernelPages
  return ReadWindowView.create image.reader ((1 + kernelPages) * image.pageSize)
    image.ramdiskSize.toNat

def signature : Result (Option OpenReader) :=
  match image.header with
  | .v4 header => do
      let kernelPages ← image.kernelPages
      let ramdiskPages ← image.ramdiskPages
      return some (ReadWindowView.create image.reader
        ((1 + kernelPages + ramdiskPages) * image.pageSize) header.signatureSize.toNat)
  | _ => .ok none

end BootImage

end Cuttlefish.AssembleCvd
