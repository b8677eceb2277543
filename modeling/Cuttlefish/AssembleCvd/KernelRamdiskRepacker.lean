import Mathlib.Logic.Function.Basic
import Cuttlefish.Foundation.Action
import Cuttlefish.Foundation.Bytes

/-! # Repacking vendor boot images

`RepackKernelRamdisk` of `disk/kernel_ramdisk_repacker.cpp` with the vendor boot parts of
`boot_image_utils.cc`. The assembly directory is shared by all instances. -/

namespace Cuttlefish.AssembleCvd

structure VendorBoot where
  pageSize : UInt32
  kernelAddr : UInt32
  ramdiskAddr : UInt32
  vendorRamdisk : Bytes
  kernelCommandLine : Bytes
  tagsAddr : UInt32
  name : Bytes
  dtb : Bytes
  dtbAddr : UInt64
  bootconfig : Bytes
  deriving DecidableEq

structure InstanceSpecific where
  id : Nat
  vendorBootImage : VendorBoot
  hasKernelPath : Bool
  initramfs : Option Bytes
  bootconfigSupported : Bool

/-- The programs that unpack and pack ramdisks. Those that work on a directory may stop early. -/
structure RamdiskTools (Tree : Type) where
  emptyDir : Tree
  extract : (stops : Option Nat) → Bytes → Tree → Tree
  /-- `rm -rf lib/modules`. -/
  removeModules : (stops : Option Nat) → Tree → Tree
  pack : Tree → Bytes
  splitModules : Bytes → Bytes

/-! ## Files -/

inductive SharedFile
  | concatenatedVendorRamdisk
  | dtb
  | bootconfig
  | vendorRamdiskRepacked
  | emptyRamdisk
  deriving DecidableEq

structure Disk (Tree : Type) where
  files : SharedFile → Option Bytes
  stageDir : Tree
  images : Nat → Option VendorBoot

variable {Tree : Type}

def Disk.write (disk : Disk Tree) (file : SharedFile) (content : Bytes) : Disk Tree :=
  { disk with files := Function.update disk.files file (some content) }

def Disk.setImage (disk : Disk Tree) (id : Nat) (image : VendorBoot) : Disk Tree :=
  { disk with images := Function.update disk.images id (some image) }

inductive Operation
  | openVendorBoot
  | creatConcatenated
  | copyRamdisk
  | creatDtb
  | copyDtb
  | creatBootconfig
  | copyBootconfig
  | unpackRamdisk
  | extract
  | removeModules
  | packRamdisk
  | openRepacked
  | writeRepacked
  | openRamdisk
  | openDtb
  | openBootconfig
  | buildV4
  | createTmp
  | copyImage
  | addHashFooter
  | renameTmp
  deriving DecidableEq

abbrev Faults := Operation → Option Nat

def creat (fault : Option Nat) (file : SharedFile) : Action (Disk Tree) Unit := do
  Action.expect fault.isNone "Failed to open"
  Action.modify (·.write file [])

def copyTo (fault : Option Nat) (file : SharedFile) (content : Bytes) : Action (Disk Tree) Unit := do
  Action.modify (·.write file (match fault with
    | none => content
    | some written => content.take written))
  Action.expect fault.isNone "Copy"

def openReadOnly (fault : Option Nat) (file : SharedFile) : Action (Disk Tree) Bytes := do
  let disk ← Action.get
  Action.expect (fault.isNone && (disk.files file).isSome) "OpenReadOnly"
  return (disk.files file).getD []

/-! ## Texts -/

/-- `absl::StrReplaceAll` of one text; so many bytes of an occurrence are still to be left out. -/
def strReplaceAll (wanted replacement : Bytes) : (skipped : Nat) → Bytes → Bytes
  | _, [] => []
  | skipped + 1, _ :: rest => strReplaceAll wanted replacement skipped rest
  | 0, byte :: rest =>
      if wanted.isPrefixOf (byte :: rest) then
        replacement ++ strReplaceAll wanted replacement (wanted.length - 1) rest
      else byte :: strReplaceAll wanted replacement 0 rest

def kernelPrefix : Bytes := " kernel.".toUTF8.data.toList

def newCommandLine (kernelCommandLine bootconfig : Bytes) (bootconfigSupported : Bool) : Bytes :=
  if bootconfigSupported then kernelCommandLine
  else strReplaceAll kernelPrefix [32] 0
    (kernelCommandLine ++ 32 :: strReplaceAll [10] [32] 0 bootconfig)

/-! ## Unpacking and repacking -/

section

variable (tools : RamdiskTools Tree) (faults : Faults)

def unpackParts (vendorBoot : VendorBoot) : Action (Disk Tree) Unit := do
  creat (faults .creatConcatenated) .concatenatedVendorRamdisk
  copyTo (faults .copyRamdisk) .concatenatedVendorRamdisk vendorBoot.vendorRamdisk
  creat (faults .creatDtb) .dtb
  copyTo (faults .copyDtb) .dtb vendorBoot.dtb
  creat (faults .creatBootconfig) .bootconfig
  copyTo (faults .copyBootconfig) .bootconfig vendorBoot.bootconfig

def unpackVendorBootImageIfNotUnpacked (vendorBoot : VendorBoot) :
    Action (Disk Tree) VendorBoot := do
  Action.expect (faults .openVendorBoot).isNone "Failed to open"
  let disk ← Action.get
  if (disk.files .concatenatedVendorRamdisk).isSome then return vendorBoot
  else
    unpackParts faults vendorBoot
    return vendorBoot

def unpackRamdisk : Action (Disk Tree) Unit := do
  let ramdisk ← openReadOnly (faults .unpackRamdisk) .concatenatedVendorRamdisk
  Action.modify fun disk =>
    { disk with stageDir := tools.extract (faults .extract) ramdisk disk.stageDir }

def removeModules : Action (Disk Tree) Unit := do
  Action.modify fun disk =>
    { disk with stageDir := tools.removeModules (faults .removeModules) disk.stageDir }
  Action.expect (faults .removeModules).isNone "Could not rmdir 'lib/modules' in TMP_RD_DIR. "

def writeRepacked (content : Bytes) : Action (Disk Tree) Unit :=
  if (faults .openRepacked).isSome then pure ()
  else Action.modify (·.write .vendorRamdiskRepacked (match faults .writeRepacked with
    | none => content
    | some written => content.take written))

def repackVendorRamdisk (kernelModulesRamdisk : Bytes) : Action (Disk Tree) Unit := do
  unpackRamdisk tools faults
  removeModules tools faults
  Action.expect (faults .packRamdisk).isNone "PackRamdisk"
  let disk ← Action.get
  writeRepacked faults (tools.pack disk.stageDir ++ kernelModulesRamdisk)

def newRamdiskFile (newRamdisk : Option Bytes) : Action (Disk Tree) SharedFile :=
  match newRamdisk with
  | none => return .concatenatedVendorRamdisk
  | some kernelModulesRamdisk => do
      let disk ← Action.get
      if (disk.files .vendorRamdiskRepacked).isSome then return .vendorRamdiskRepacked
      else
        repackVendorRamdisk tools faults kernelModulesRamdisk
        return .vendorRamdiskRepacked

def newImage (unpack : VendorBoot) (bootconfigSupported : Bool) (ramdisk dtb bootconfig : Bytes) :
    VendorBoot :=
  { unpack with
    vendorRamdisk := ramdisk
    kernelCommandLine := newCommandLine unpack.kernelCommandLine bootconfig bootconfigSupported
    dtb := dtb
    bootconfig := if bootconfigSupported then bootconfig else [] }

def openBootconfig (bootconfigSupported : Bool) : Action (Disk Tree) Bytes :=
  if bootconfigSupported then openReadOnly (faults .openBootconfig) .bootconfig else pure []

def buildImage (id : Nat) (unpack : VendorBoot) (bootconfigSupported : Bool)
    (ramdiskFile : SharedFile) : Action (Disk Tree) Unit := do
  let disk ← Action.get
  let bootconfig := (disk.files .bootconfig).getD []
  let ramdisk ← openReadOnly (faults .openRamdisk) ramdiskFile
  let dtb ← openReadOnly (faults .openDtb) .dtb
  let _ ← openBootconfig faults bootconfigSupported
  Action.expect (faults .buildV4).isNone "builder.BuildV4()"
  Action.expect (faults .createTmp).isNone "fs.CreateFile(tmp_vendor_boot_image_path)"
  Action.expect (faults .copyImage).isNone "Copy"
  Action.expect (faults .addHashFooter).isNone "AddHashFooter"
  Action.expect (faults .renameTmp).isNone "DeleteTmpFileIfNotChanged"
  Action.modify (·.setImage id (newImage unpack bootconfigSupported ramdisk dtb bootconfig))

def repackVendorBootImage (instance_ : InstanceSpecific) (newRamdisk : Option Bytes) :
    Action (Disk Tree) Unit := do
  let unpack ← unpackVendorBootImageIfNotUnpacked faults instance_.vendorBootImage
  let ramdiskFile ← newRamdiskFile tools faults newRamdisk
  buildImage faults instance_.id unpack instance_.bootconfigSupported ramdiskFile

end

/-! ## Calls -/

structure RepackCall where
  instance_ : InstanceSpecific
  vendorBootHasContent : Bool
  initramfsCopied : Bool
  superRepacked : Bool
  emptyRamdiskCreated : Bool
  /-- In the first `RepackVendorBootImage`, and in the one with an empty ramdisk. -/
  faults : Faults
  emptyFaults : Faults

def repackVendorBootImageWithEmptyRamdisk (tools : RamdiskTools Tree) (call : RepackCall) :
    Action (Disk Tree) Unit := do
  Action.expect call.emptyRamdiskCreated "Failed to open"
  Action.modify (·.write .emptyRamdisk [])
  repackVendorBootImage tools call.emptyFaults call.instance_ (some [])

/-- With an initramfs. An error of the first `RepackVendorBootImage` is only logged. -/
def repackInitramfs (tools : RamdiskTools Tree) (call : RepackCall) (initramfs : Bytes) :
    Action (Disk Tree) Unit := do
  Action.expect call.initramfsCopied "Failed to copy"
  Action.expect call.superRepacked "RepackSuperAndVbmeta"
  let res ← Action.attempt
    (repackVendorBootImage tools call.faults call.instance_ (some (tools.splitModules initramfs)))
  match res with
  | .error _ => return ()
  | .ok () => repackVendorBootImageWithEmptyRamdisk tools call

def repackKernelRamdisk (tools : RamdiskTools Tree) (call : RepackCall) :
    Action (Disk Tree) Unit := do
  Action.expect call.vendorBootHasContent "File not found"
  if !call.instance_.hasKernelPath && call.instance_.initramfs.isNone then return ()
  else
    match call.instance_.initramfs with
    | none => return ()
    | some initramfs => repackInitramfs tools call initramfs

end Cuttlefish.AssembleCvd
