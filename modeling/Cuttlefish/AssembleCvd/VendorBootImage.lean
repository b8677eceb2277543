import Cuttlefish.AssembleCvd.PagedParts

/-! # Vendor boot images

`VendorBootImageBuilder` of `vendor_boot_image_builder.cc` and `VendorBootImage` of
`vendor_boot_image.cc`. -/

namespace Cuttlefish.AssembleCvd

open Io

/-! ## Headers -/

structure VendorBootImgHdrV3 where
  magic : Bytes
  headerVersion : UInt32
  pageSize : UInt32
  kernelAddr : UInt32
  ramdiskAddr : UInt32
  vendorRamdiskSize : UInt32
  cmdline : Bytes
  tagsAddr : UInt32
  name : Bytes
  headerSize : UInt32
  dtbSize : UInt32
  dtbAddr : UInt64

structure VendorBootImgHdrV4 extends VendorBootImgHdrV3 where
  vendorRamdiskTableSize : UInt32
  vendorRamdiskTableEntryNum : UInt32
  vendorRamdiskTableEntrySize : UInt32
  bootconfigSize : UInt32

structure VendorBootimg where
  vendorBootMagic : Bytes
  cmdlineSize : Nat
  nameSize : Nat
  sizeofV3 : Nat
  sizeofV4 : Nat
  sizeofTableEntryV4 : Nat
  storeV4 : (memory : Bytes) → VendorBootImgHdrV4 → Bytes
  loadV4 : Bytes → VendorBootImgHdrV4

structure VendorBootimg.Sized (bootimg : VendorBootimg) (header : VendorBootImgHdrV4) : Prop where
  magic : header.magic.length = bootimg.vendorBootMagic.length
  cmdline : header.cmdline.length = bootimg.cmdlineSize
  name : header.name.length = bootimg.nameSize

structure VendorBootimg.Laws (bootimg : VendorBootimg) : Prop where
  small : bootimg.sizeofV4 < 4294967296
  length_cmdline : ∀ {memory : Bytes}, memory.length = bootimg.sizeofV4 →
    (bootimg.loadV4 memory).cmdline.length = bootimg.cmdlineSize
  length_name : ∀ {memory : Bytes}, memory.length = bootimg.sizeofV4 →
    (bootimg.loadV4 memory).name.length = bootimg.nameSize
  length_store : ∀ {memory : Bytes} {header : VendorBootImgHdrV4},
    memory.length = bootimg.sizeofV4 → bootimg.Sized header →
      (bootimg.storeV4 memory header).length = bootimg.sizeofV4
  loadV4_store : ∀ {memory : Bytes} {header : VendorBootImgHdrV4},
    memory.length = bootimg.sizeofV4 → bootimg.Sized header →
      bootimg.loadV4 (bootimg.storeV4 memory header) = header

/-! ## Building -/

def defaultBaseAddress : UInt32 := 0x10000000

structure VendorBootImageBuilder where
  pageSize : UInt32 := 2048
  kernelAddr : UInt32 := defaultBaseAddress + 0x8000
  ramdiskAddr : UInt32 := defaultBaseAddress + 0x1000000
  vendorRamdisk : Option OpenReader := none
  kernelCommandLine : Bytes := []
  tagsAddr : UInt32 := defaultBaseAddress + 0x100
  name : Bytes := []
  dtb : Option OpenReader := none
  dtbAddr : UInt64 := defaultBaseAddress.toUInt64 + 0x01f00000
  bootconfig : Option OpenReader := none

namespace VendorBootImageBuilder

/-- The header with these lengths. Its memory is not initialized. -/
def header (bootimg : VendorBootimg) (memory : Bytes) (builder : VendorBootImageBuilder)
    (vendorRamdiskSize dtbSize bootconfigSize : Nat) : VendorBootImgHdrV4 where
  magic := bootimg.vendorBootMagic
  headerVersion := 4
  pageSize := builder.pageSize
  kernelAddr := builder.kernelAddr
  ramdiskAddr := builder.ramdiskAddr
  vendorRamdiskSize := UInt32.ofNat vendorRamdiskSize
  cmdline := snprintf (bootimg.loadV4 memory).cmdline builder.kernelCommandLine
  tagsAddr := builder.tagsAddr
  name := snprintf (bootimg.loadV4 memory).name builder.name
  headerSize := UInt32.ofNat bootimg.sizeofV4
  dtbSize := UInt32.ofNat dtbSize
  dtbAddr := builder.dtbAddr
  vendorRamdiskTableSize := 0
  vendorRamdiskTableEntryNum := 0
  vendorRamdiskTableEntrySize := UInt32.ofNat bootimg.sizeofTableEntryV4
  bootconfigSize := UInt32.ofNat bootconfigSize

def buildV4 (bootimg : VendorBootimg) (memory : Bytes) (builder : VendorBootImageBuilder) :
    Result OpenReader := do
  let (vendorRamdiskSize, vendorRamdisk) ← partLength builder.vendorRamdisk
  cfExpect (builder.kernelCommandLine.length < bootimg.cmdlineSize)
    "kernel_command_line_.size() < sizeof(header.cmdline)"
  cfExpect (builder.name.length < bootimg.nameSize) "name_.size() < sizeof(header.name)"
  let (dtbSize, dtb) ← partLength builder.dtb
  let (bootconfigSize, bootconfig) ← partLength builder.bootconfig
  let header := builder.header bootimg memory vendorRamdiskSize dtbSize bootconfigSize
  let pageSize := builder.pageSize.toNat
  let headerPadding ← pagePadding bootimg.sizeofV4 pageSize
  let vendorRamdiskMembers ←
    partMembers vendorRamdisk (pagePadding header.vendorRamdiskSize.toNat pageSize)
  let dtbMembers ← partMembers dtb (pagePadding header.dtbSize.toNat pageSize)
  let bootconfigMembers ←
    partMembers bootconfig (pagePadding header.bootconfigSize.toNat pageSize)
  ConcatReaderSeeker.create
    ([some (.inMemory (.ofData (bootimg.storeV4 memory header))), some headerPadding] ++
      vendorRamdiskMembers ++ dtbMembers ++ bootconfigMembers)

end VendorBootImageBuilder

/-! ## Reading -/

inductive VendorHeaderVariant
  | v3 (header : VendorBootImgHdrV3)
  | v4 (header : VendorBootImgHdrV4)

structure VendorBootImage where
  reader : OpenReader
  header : VendorHeaderVariant

namespace VendorBootImage

def read (bootimg : VendorBootimg) (reader : OpenReader) : Result VendorBootImage := do
  let memory ← pReadExact (OpenReader.reader.pread reader) bootimg.sizeofV4 0
  let v4 := bootimg.loadV4 memory
  cfExpect (v4.magic = bootimg.vendorBootMagic) "memcmp(v4.magic, VENDOR_BOOT_MAGIC)"
  match v4.headerVersion.toNat with
  | 3 => return ⟨reader, .v3 v4.toVendorBootImgHdrV3⟩
  | 4 => return ⟨reader, .v4 v4⟩
  | _ => .error (.err "Unknown header version")

section

variable (bootimg : VendorBootimg) (image : VendorBootImage)

def asV3 : VendorBootImgHdrV3 :=
  match image.header with
  | .v3 header => header
  | .v4 header => header.toVendorBootImgHdrV3

def pageSize : UInt32 := image.asV3.pageSize

def kernelAddr : UInt32 := image.asV3.kernelAddr

def ramdiskAddr : UInt32 := image.asV3.ramdiskAddr

def kernelCommandLine : Result Bytes := cString image.asV3.cmdline

def tagsAddr : UInt32 := image.asV3.tagsAddr

def name : Result Bytes := cString image.asV3.name

def dtbAddr : UInt64 := image.asV3.dtbAddr

def headerSize : Nat :=
  match image.header with
  | .v3 _ => bootimg.sizeofV3
  | .v4 _ => bootimg.sizeofV4

def vendorRamdiskBegin : Result Nat :=
  if image.pageSize = 0 then .error (.abort "division by zero")
  else .ok (pages image.pageSize.toNat (image.headerSize bootimg) * image.pageSize.toNat)

def pages32 (pageSize size : UInt32) : UInt32 := (size + pageSize - 1) / pageSize

def dtbBegin : Result Nat := do
  let vendorRamdiskBegin ← image.vendorRamdiskBegin bootimg
  return vendorRamdiskBegin +
    (pages32 image.pageSize image.asV3.vendorRamdiskSize * image.pageSize).toNat

def vendorRamdisk : Result OpenReader := do
  let start ← image.vendorRamdiskBegin bootimg
  return ReadWindowView.create image.reader start image.asV3.vendorRamdiskSize.toNat

def dtb : Result OpenReader := do
  let start ← image.dtbBegin bootimg
  return ReadWindowView.create image.reader start image.asV3.dtbSize.toNat

def bootconfig : Result (Option OpenReader) :=
  match image.header with
  | .v3 _ => .ok none
  | .v4 header => do
      let dtbBegin ← image.dtbBegin bootimg
      let dtbPages := pages32 header.pageSize header.dtbSize
      let tablePages := pages32 header.pageSize header.vendorRamdiskTableSize
      return some (ReadWindowView.create image.reader
        (dtbBegin + ((dtbPages + tablePages) * header.pageSize).toNat) header.bootconfigSize.toNat)

end

theorem toNat_pages32 {pageSize : UInt32} (somePage : 0 < pageSize.toNat) (size : UInt32) :
    (pages32 pageSize size).toNat =
      if size.toNat + pageSize.toNat ≤ 4294967296 then pages pageSize.toNat size.toNat else 0 := by
  have sizeFits := size.toNat_lt
  have pageFits := pageSize.toNat_lt
  have one : (1 : UInt32).toNat = 1 := rfl
  rw [pages32, UInt32.toNat_div, UInt32.toNat_sub, UInt32.toNat_add, one, pages]
  split
  next fits =>
    congr 1
    omega
  next wraps =>
    apply Nat.div_eq_of_lt
    omega

end VendorBootImage

end Cuttlefish.AssembleCvd
