import Cuttlefish.AssembleCvd.RepackedVendorBoot
import Cuttlefish.Foundation.Run

/-! # Whose vendor boot image an instance gets

The shared files are made by the first call that gets to them and reused by all others. -/

namespace Cuttlefish.AssembleCvd

variable {Tree : Type}

section

variable (tools : RamdiskTools Tree)

def strippedRamdisk (vendorRamdisk : Bytes) : Bytes :=
  tools.pack (tools.removeModules none (tools.extract none vendorRamdisk tools.emptyDir))

def ownRamdisk (instance_ : InstanceSpecific) (initramfs : Bytes) : Bytes :=
  strippedRamdisk tools instance_.vendorBootImage.vendorRamdisk ++ tools.splitModules initramfs

/-- Where bootconfig is not supported it is part of the command line. -/
structure BootsOwn (instance_ : InstanceSpecific) (initramfs : Bytes) (image : VendorBoot) :
    Prop where
  dtb : image.dtb = instance_.vendorBootImage.dtb
  ramdisk : image.vendorRamdisk = ownRamdisk tools instance_ initramfs
  bootconfig : instance_.bootconfigSupported = true →
    image.bootconfig = instance_.vendorBootImage.bootconfig
  commandLine : image.kernelCommandLine = newCommandLine instance_.vendorBootImage.kernelCommandLine
    instance_.vendorBootImage.bootconfig instance_.bootconfigSupported

def HasOwnImage (instance_ : InstanceSpecific) (initramfs : Bytes) (disk : Disk Tree) : Prop :=
  ∃ image, disk.images instance_.id = some image ∧ BootsOwn tools instance_ initramfs image

/-! ## Runs -/

structure RepackSession (Tree : Type) where
  disk : Disk Tree
  succeeded : Option InstanceSpecific

def RepackSession.step (session : RepackSession Tree) (call : RepackCall) :
    Option (RepackSession Tree) :=
  match repackKernelRamdisk tools call session.disk with
  | (.ok (), disk) => some ⟨disk, some call.instance_⟩
  | (.error _, disk) => some ⟨disk, none⟩

/-- A call that succeeded for an instance with an initramfs has left its image. -/
def RepackSession.BootsOwn (session : RepackSession Tree) : Prop :=
  ∀ instance_ ∈ session.succeeded, ∀ initramfs ∈ instance_.initramfs,
    HasOwnImage tools instance_ initramfs session.disk

/-- What a call meets comes from its own instance, or is not there yet. -/
structure FindsOwn (call : RepackCall) (initramfs : Bytes) (disk : Disk Tree) : Prop where
  unpacked : disk.files .concatenatedVendorRamdisk = none ∨
    disk.files .dtb = some call.instance_.vendorBootImage.dtb ∧
      (disk.files .bootconfig).getD [] = call.instance_.vendorBootImage.bootconfig
  repacked : disk.files .vendorRamdiskRepacked = some (ownRamdisk tools call.instance_ initramfs) ∨
    disk.files .vendorRamdiskRepacked = none ∧
      (∀ ramdisk ∈ disk.files .concatenatedVendorRamdisk,
        ramdisk = call.instance_.vendorBootImage.vendorRamdisk) ∧
      tools.pack (tools.removeModules none (tools.extract none
        call.instance_.vendorBootImage.vendorRamdisk disk.stageDir)) =
          strippedRamdisk tools call.instance_.vendorBootImage.vendorRamdisk ∧
      call.faults .extract = none ∧ call.faults .writeRepacked = none
  succeeds : Repackable call.faults call.instance_.bootconfigSupported disk ∨
    HasOwnImage tools call.instance_ initramfs disk

end

/-! ## Operations that succeed -/

theorem creat_eq_ok {fault : Option Nat} {file : SharedFile} {disk final : Disk Tree} {value : Unit}
    (isOk : creat fault file disk = (.ok value, final)) : final = disk.write file [] := by
  simp only [creat, Action.bind_eq_ok, Action.expect_eq_ok, Action.modify_eq_ok] at isOk
  rcases isOk with ⟨_, _, ⟨-, rfl⟩, rfl⟩
  rfl

theorem copyTo_eq_ok {fault : Option Nat} {file : SharedFile} {content : Bytes}
    {disk final : Disk Tree} {value : Unit}
    (isOk : copyTo fault file content disk = (.ok value, final)) :
    final = disk.write file content := by
  simp only [copyTo, Action.bind_eq_ok, Action.expect_eq_ok, Action.modify_eq_ok] at isOk
  rcases isOk with ⟨_, _, rfl, noFault, rfl⟩
  rw [Option.isNone_iff_eq_none] at noFault
  rw [noFault]

theorem openReadOnly_eq_ok {fault : Option Nat} {file : SharedFile} {disk final : Disk Tree}
    {content : Bytes} (isOk : openReadOnly fault file disk = (.ok content, final)) :
    disk.files file = some content ∧ final = disk := by
  simp only [openReadOnly, Action.bind_eq_ok, Action.expect_eq_ok, Action.get_eq_ok,
    Action.pure_eq_ok] at isOk
  rcases isOk with ⟨_, _, ⟨rfl, rfl⟩, _, _, ⟨isThere, rfl⟩, rfl, rfl⟩
  rw [Bool.and_eq_true] at isThere
  rcases Option.isSome_iff_exists.mp isThere.2 with ⟨content, isContent⟩
  exact ⟨by rw [isContent]; rfl, rfl⟩

theorem unpack_eq_ok {faults : Faults} {vendorBoot unpack : VendorBoot} {disk final : Disk Tree}
    (isOk : unpackVendorBootImageIfNotUnpacked faults vendorBoot disk = (.ok unpack, final)) :
    unpack = vendorBoot ∧
      ((disk.files .concatenatedVendorRamdisk).isSome ∧ final = disk ∨
        disk.files .concatenatedVendorRamdisk = none ∧
          final = ((disk.write .concatenatedVendorRamdisk vendorBoot.vendorRamdisk).write .dtb
            vendorBoot.dtb).write .bootconfig vendorBoot.bootconfig) := by
  simp only [unpackVendorBootImageIfNotUnpacked, Action.bind_eq_ok, Action.expect_eq_ok,
    Action.get_eq_ok] at isOk
  rcases isOk with ⟨_, _, ⟨-, rfl⟩, _, _, ⟨rfl, rfl⟩, isOk⟩
  by_cases unpacked : (disk.files .concatenatedVendorRamdisk).isSome
  · rw [if_pos unpacked, Action.pure_eq_ok] at isOk
    exact ⟨isOk.1.symm, .inl ⟨unpacked, isOk.2.symm⟩⟩
  · rw [if_neg unpacked] at isOk
    simp only [Action.bind_eq_ok, Action.pure_eq_ok, unpackParts] at isOk
    obtain ⟨_, _, ⟨_, _, creatRamdisk, _, _, ramdisk, _, _, creatDtb, _, _, dtb, _, _,
      creatBootconfig, bootconfig⟩, rfl, rfl⟩ := isOk
    refine ⟨rfl, .inr ⟨Option.not_isSome_iff_eq_none.mp unpacked, ?_⟩⟩
    rw [copyTo_eq_ok bootconfig, creat_eq_ok creatBootconfig, write_write, copyTo_eq_ok dtb,
      creat_eq_ok creatDtb, write_write, copyTo_eq_ok ramdisk, creat_eq_ok creatRamdisk, write_write]

theorem buildImage_eq_ok {faults : Faults} {id : Nat} {unpack : VendorBoot}
    {bootconfigSupported : Bool} {ramdiskFile : SharedFile} {disk final : Disk Tree} {value : Unit}
    (isOk : buildImage faults id unpack bootconfigSupported ramdiskFile disk = (.ok value, final)) :
    ∃ ramdisk dtb, disk.files ramdiskFile = some ramdisk ∧ disk.files .dtb = some dtb ∧
      final = disk.setImage id (newImage unpack bootconfigSupported ramdisk dtb
        ((disk.files .bootconfig).getD [])) := by
  simp only [buildImage, Action.bind_eq_ok, Action.get_eq_ok, Action.expect_eq_ok,
    Action.modify_eq_ok] at isOk
  obtain ⟨_, _, ⟨rfl, rfl⟩, ramdisk, _, isRamdisk, dtb, _, isDtb, _, _, isBootconfig, _, _,
    ⟨-, rfl⟩, _, _, ⟨-, rfl⟩, _, _, ⟨-, rfl⟩, _, _, ⟨-, rfl⟩, _, _, ⟨-, rfl⟩, rfl⟩ := isOk
  rcases openReadOnly_eq_ok isRamdisk with ⟨foundRamdisk, rfl⟩
  rcases openReadOnly_eq_ok isDtb with ⟨foundDtb, rfl⟩
  refine ⟨ramdisk, dtb, foundRamdisk, foundDtb, ?_⟩
  rw [openBootconfig] at isBootconfig
  split at isBootconfig
  · rw [(openReadOnly_eq_ok isBootconfig).2]
  · rw [(Action.pure_eq_ok.mp isBootconfig).2]

theorem newRamdiskFile_eq_ok {tools : RamdiskTools Tree} {faults : Faults}
    {kernelModulesRamdisk : Bytes} {disk final : Disk Tree} {file : SharedFile}
    (isOk : newRamdiskFile tools faults (some kernelModulesRamdisk) disk = (.ok file, final)) :
    file = .vendorRamdiskRepacked ∧ final.images = disk.images ∧
      (∀ other, other ≠ .vendorRamdiskRepacked → final.files other = disk.files other) ∧
      ((disk.files .vendorRamdiskRepacked).isSome ∧ final = disk ∨
        disk.files .vendorRamdiskRepacked = none ∧
          ∃ ramdisk, disk.files .concatenatedVendorRamdisk = some ramdisk ∧
            ∀ repacked, final.files .vendorRamdiskRepacked = some repacked →
              faults .writeRepacked = none → faults .extract = none →
                repacked = tools.pack (tools.removeModules none
                  (tools.extract none ramdisk disk.stageDir)) ++ kernelModulesRamdisk) := by
  simp only [newRamdiskFile, Action.bind_eq_ok, Action.get_eq_ok] at isOk
  rcases isOk with ⟨_, _, ⟨rfl, rfl⟩, isOk⟩
  by_cases repacked : (disk.files .vendorRamdiskRepacked).isSome
  · rw [if_pos repacked, Action.pure_eq_ok] at isOk
    rcases isOk with ⟨rfl, rfl⟩
    exact ⟨rfl, rfl, fun _ _ => rfl, .inl ⟨repacked, rfl⟩⟩
  · rw [if_neg repacked] at isOk
    simp only [Action.bind_eq_ok, Action.pure_eq_ok, repackVendorRamdisk, unpackRamdisk,
      removeModules, Action.modify_eq_ok, Action.expect_eq_ok, Action.get_eq_ok] at isOk
    obtain ⟨_, _, ⟨_, _, ⟨ramdisk, _, isRamdisk, rfl⟩, _, _, ⟨_, _, rfl, noFault, rfl⟩, _, _,
      ⟨-, rfl⟩, _, _, ⟨rfl, rfl⟩, written⟩, rfl, rfl⟩ := isOk
    rcases openReadOnly_eq_ok isRamdisk with ⟨found, rfl⟩
    have none_ := Option.not_isSome_iff_eq_none.mp repacked
    rw [Option.isNone_iff_eq_none] at noFault
    simp only [writeRepacked, noFault] at written
    split at written
    · rw [Action.pure_eq_ok] at written
      rcases written with ⟨-, rfl⟩
      exact ⟨rfl, rfl, fun _ _ => rfl, .inr ⟨none_, ramdisk, found, by simp [none_]⟩⟩
    · rw [Action.modify_eq_ok] at written
      rcases written with rfl
      refine ⟨rfl, rfl, fun other different => Function.update_of_ne different _ _,
        .inr ⟨none_, ramdisk, found, fun content isContent whole wholeExtract => ?_⟩⟩
      simp only [Disk.write, Function.update_self, Option.some.injEq, whole, wholeExtract]
        at isContent
      exact isContent.symm

structure BuiltFrom (disk : Disk Tree) (ramdisk dtb bootconfig : Bytes) : Prop where
  unpacked : (disk.files .concatenatedVendorRamdisk).isSome
  repacked : disk.files .vendorRamdiskRepacked = some ramdisk
  dtb : disk.files .dtb = some dtb
  bootconfig : (disk.files .bootconfig).getD [] = bootconfig

/-- Where the files come from that a new image is built from. -/
structure Sources (tools : RamdiskTools Tree) (faults : Faults) (vendorBoot : VendorBoot)
    (kernelModulesRamdisk : Bytes) (disk : Disk Tree) (ramdisk dtb bootconfig : Bytes) : Prop where
  parts : (disk.files .concatenatedVendorRamdisk).isSome ∧ disk.files .dtb = some dtb ∧
      (disk.files .bootconfig).getD [] = bootconfig ∨
    disk.files .concatenatedVendorRamdisk = none ∧ dtb = vendorBoot.dtb ∧
      bootconfig = vendorBoot.bootconfig
  ramdisk : disk.files .vendorRamdiskRepacked = some ramdisk ∨
    disk.files .vendorRamdiskRepacked = none ∧
      (faults .writeRepacked = none → faults .extract = none →
        ramdisk = tools.pack (tools.removeModules none (tools.extract none
          ((disk.files .concatenatedVendorRamdisk).getD vendorBoot.vendorRamdisk) disk.stageDir)) ++
            kernelModulesRamdisk)

theorem repack_eq_ok {tools : RamdiskTools Tree} {faults : Faults} {instance_ : InstanceSpecific}
    {kernelModulesRamdisk : Bytes} {disk final : Disk Tree} {value : Unit}
    (isOk : repackVendorBootImage tools faults instance_ (some kernelModulesRamdisk) disk =
      (.ok value, final)) :
    ∃ ramdisk dtb bootconfig, BuiltFrom final ramdisk dtb bootconfig ∧
      final.images instance_.id = some (newImage instance_.vendorBootImage
        instance_.bootconfigSupported ramdisk dtb bootconfig) ∧
      Sources tools faults instance_.vendorBootImage kernelModulesRamdisk disk ramdisk dtb
        bootconfig := by
  simp only [repackVendorBootImage, Action.bind_eq_ok] at isOk
  rcases isOk with ⟨unpack, unpackedDisk, isUnpacked, file, between, isFile, isBuilt⟩
  rcases unpack_eq_ok isUnpacked with ⟨rfl, unpacked⟩
  rcases newRamdiskFile_eq_ok isFile with ⟨rfl, -, others, repacked⟩
  rcases buildImage_eq_ok isBuilt with ⟨ramdisk, dtb, isRamdisk, isDtb, rfl⟩
  have sameDtb := others .dtb (by decide)
  have sameBootconfig := others .bootconfig (by decide)
  have sameRamdisk := others .concatenatedVendorRamdisk (by decide)
  refine ⟨ramdisk, dtb, (between.files .bootconfig).getD [], ⟨?_, isRamdisk, isDtb, rfl⟩,
    Function.update_self _ _ _, ?_, ?_⟩
  · change (between.files .concatenatedVendorRamdisk).isSome
    rw [sameRamdisk]
    rcases unpacked with ⟨isThere, rfl⟩ | ⟨-, rfl⟩
    · exact isThere
    · rfl
  · rw [sameBootconfig]
    rw [sameDtb] at isDtb
    rcases unpacked with ⟨isThere, rfl⟩ | ⟨none_, rfl⟩
    · exact .inl ⟨isThere, isDtb, rfl⟩
    · exact .inr ⟨none_, (Option.some.inj isDtb).symm, rfl⟩
  · have before : unpackedDisk.files .vendorRamdiskRepacked = disk.files .vendorRamdiskRepacked ∧
        unpackedDisk.stageDir = disk.stageDir ∧
        unpackedDisk.files .concatenatedVendorRamdisk =
          some ((disk.files .concatenatedVendorRamdisk).getD
            instance_.vendorBootImage.vendorRamdisk) := by
      rcases unpacked with ⟨isThere, rfl⟩ | ⟨none_, rfl⟩
      · rcases Option.isSome_iff_exists.mp isThere with ⟨ramdisk, isRamdisk⟩
        exact ⟨rfl, rfl, by rw [isRamdisk]; rfl⟩
      · exact ⟨rfl, rfl, by rw [none_]; rfl⟩
    rw [← before.1, ← before.2.1]
    rcases repacked with ⟨-, rfl⟩ | ⟨none_, concatenated, isConcatenated, made⟩
    · exact .inl isRamdisk
    · rw [before.2.2] at isConcatenated
      rcases Option.some.inj isConcatenated with rfl
      exact .inr ⟨none_, made ramdisk isRamdisk⟩

/-! ## Operations that fail -/

section Keeps

open Cuttlefish.Action

variable {faults : Faults}

theorem keeps_write (file : SharedFile) (content : Bytes) :
    Keeps Disk.images (modify fun disk : Disk Tree => disk.write file content) := fun _ => rfl

theorem keeps_creat (fault : Option Nat) (file : SharedFile) :
    Keeps Disk.images (creat fault file : Action (Disk Tree) Unit) :=
  (keeps_expect _ _).bind fun _ => keeps_write _ _

theorem keeps_copyTo (fault : Option Nat) (file : SharedFile) (content : Bytes) :
    Keeps Disk.images (copyTo fault file content : Action (Disk Tree) Unit) :=
  Keeps.bind (keeps_write _ _) fun _ => keeps_expect _ _

theorem keeps_openReadOnly (fault : Option Nat) (file : SharedFile) :
    Keeps Disk.images (openReadOnly fault file : Action (Disk Tree) Bytes) :=
  keeps_get.bind fun _ => (keeps_expect _ _).bind fun _ => keeps_pure _

theorem keeps_unpackParts (vendorBoot : VendorBoot) :
    Keeps Disk.images (unpackParts faults vendorBoot : Action (Disk Tree) Unit) :=
  (keeps_creat _ _).bind fun _ => (keeps_copyTo _ _ _).bind fun _ => (keeps_creat _ _).bind fun _ =>
    (keeps_copyTo _ _ _).bind fun _ => (keeps_creat _ _).bind fun _ => keeps_copyTo _ _ _

theorem keeps_unpack (vendorBoot : VendorBoot) :
    Keeps Disk.images
      (unpackVendorBootImageIfNotUnpacked faults vendorBoot : Action (Disk Tree) VendorBoot) :=
  (keeps_expect _ _).bind fun _ => keeps_get.bind fun _ =>
    (keeps_pure _).ite ((keeps_unpackParts _).bind fun _ => keeps_pure _)

theorem keeps_repackVendorRamdisk (tools : RamdiskTools Tree) (kernelModulesRamdisk : Bytes) :
    Keeps Disk.images (repackVendorRamdisk tools faults kernelModulesRamdisk) := by
  have unpack : Keeps Disk.images (unpackRamdisk tools faults) :=
    (keeps_openReadOnly _ _).bind fun _ => keeps_modify fun _ => rfl
  have remove : Keeps Disk.images (removeModules tools faults) :=
    Keeps.bind (keeps_modify fun _ => rfl) fun _ => keeps_expect _ _
  have write : ∀ content, Keeps Disk.images
      (writeRepacked faults content : Action (Disk Tree) Unit) :=
    fun _ => (keeps_pure _).ite (keeps_write _ _)
  exact unpack.bind fun _ => remove.bind fun _ => (keeps_expect _ _).bind fun _ =>
    keeps_get.bind fun _ => write _

theorem keeps_newRamdiskFile (tools : RamdiskTools Tree) (newRamdisk : Option Bytes) :
    Keeps Disk.images (newRamdiskFile tools faults newRamdisk) := by
  cases newRamdisk with
  | none => exact keeps_pure _
  | some kernelModulesRamdisk =>
      exact keeps_get.bind fun _ => (keeps_pure _).ite
        ((keeps_repackVendorRamdisk tools _).bind fun _ => keeps_pure _)

theorem keeps_openBootconfig (bootconfigSupported : Bool) :
    Keeps Disk.images
      (openBootconfig faults bootconfigSupported : Action (Disk Tree) Bytes) :=
  (keeps_openReadOnly _ _).ite (keeps_pure _)

theorem errorKeeps_repackVendorBootImage (tools : RamdiskTools Tree)
    (instance_ : InstanceSpecific) (newRamdisk : Option Bytes) :
    ErrorKeeps Disk.images (repackVendorBootImage tools faults instance_ newRamdisk) := by
  apply (keeps_unpack _).bind_errorKeeps
  intro unpack
  apply (keeps_newRamdiskFile tools _).bind_errorKeeps
  intro ramdiskFile
  exact keeps_get.bind_errorKeeps fun _ => (keeps_openReadOnly _ _).bind_errorKeeps fun _ =>
    (keeps_openReadOnly _ _).bind_errorKeeps fun _ => (keeps_openBootconfig _).bind_errorKeeps
      fun _ => (keeps_expect _ _).bind_errorKeeps fun _ => (keeps_expect _ _).bind_errorKeeps
        fun _ => (keeps_expect _ _).bind_errorKeeps fun _ => (keeps_expect _ _).bind_errorKeeps
          fun _ => (keeps_expect _ _).bind_errorKeeps fun _ => errorKeeps_modify _

end Keeps

/-! ## Calls -/

theorem FindsOwn.boots {tools : RamdiskTools Tree} {call : RepackCall} {initramfs : Bytes}
    {disk : Disk Tree} (finds : FindsOwn tools call initramfs disk)
    {ramdisk dtb bootconfig : Bytes}
    (sources : Sources tools call.faults call.instance_.vendorBootImage
      (tools.splitModules initramfs) disk ramdisk dtb bootconfig) :
    BootsOwn tools call.instance_ initramfs (newImage call.instance_.vendorBootImage
      call.instance_.bootconfigSupported ramdisk dtb bootconfig) := by
  have parts : dtb = call.instance_.vendorBootImage.dtb ∧
      bootconfig = call.instance_.vendorBootImage.bootconfig := by
    rcases sources.parts with ⟨isThere, isDtb, isBootconfig⟩ | ⟨-, isDtb, isBootconfig⟩
    · rcases finds.unpacked with none_ | ⟨ownDtb, ownBootconfig⟩
      · rw [none_] at isThere
        cases isThere
      · rw [isDtb] at ownDtb
        exact ⟨Option.some.inj ownDtb, isBootconfig.symm.trans ownBootconfig⟩
    · exact ⟨isDtb, isBootconfig⟩
  have isRamdisk : ramdisk = ownRamdisk tools call.instance_ initramfs := by
    rcases finds.repacked with isOwn | ⟨none_, fromOwn, harmless, whole, wholeWrite⟩
    · rcases sources.ramdisk with isThere | ⟨none_, -⟩
      · exact Option.some.inj (isThere.symm.trans isOwn)
      · rw [none_] at isOwn
        cases isOwn
    · rcases sources.ramdisk with isThere | ⟨-, made⟩
      · rw [isThere] at none_
        cases none_
      · have original : (disk.files .concatenatedVendorRamdisk).getD
            call.instance_.vendorBootImage.vendorRamdisk =
              call.instance_.vendorBootImage.vendorRamdisk := by
          cases isThere : disk.files .concatenatedVendorRamdisk with
          | none => rfl
          | some content => exact fromOwn content isThere
        rw [made wholeWrite whole, original, harmless]
        rfl
  exact ⟨parts.1, isRamdisk, fun supported => by
    rw [newImage, supported]
    exact parts.2, by rw [newImage, parts.2]⟩

theorem withEmptyRamdisk_eq_ok {tools : RamdiskTools Tree} {call : RepackCall}
    {disk final : Disk Tree} {value : Unit} {ramdisk dtb bootconfig : Bytes}
    (built : BuiltFrom disk ramdisk dtb bootconfig)
    (isOk : repackVendorBootImageWithEmptyRamdisk tools call disk = (.ok value, final)) :
    final.images call.instance_.id = some (newImage call.instance_.vendorBootImage
      call.instance_.bootconfigSupported ramdisk dtb bootconfig) := by
  simp only [repackVendorBootImageWithEmptyRamdisk, Action.bind_eq_ok, Action.expect_eq_ok,
    Action.modify_eq_ok] at isOk
  rcases isOk with ⟨_, _, ⟨-, rfl⟩, _, _, rfl, isOk⟩
  rcases repack_eq_ok isOk with ⟨_, _, _, -, isImage, sources⟩
  rw [isImage]
  have again : BuiltFrom (disk.write .emptyRamdisk []) ramdisk dtb bootconfig :=
    ⟨built.unpacked, built.repacked, built.dtb, built.bootconfig⟩
  have sameRamdisk := sources.ramdisk.resolve_right fun none_ => by
    rw [again.repacked] at none_
    cases none_.1
  obtain ⟨-, sameDtb, sameBootconfig⟩ := sources.parts.resolve_right fun none_ => by
    have unpacked := again.unpacked
    rw [none_.1] at unpacked
    cases unpacked
  rcases Option.some.inj (again.repacked.symm.trans sameRamdisk) with rfl
  rcases Option.some.inj (again.dtb.symm.trans sameDtb) with rfl
  rw [← sameBootconfig, again.bootconfig]

theorem hasOwnImage_of_ok {tools : RamdiskTools Tree} {call : RepackCall} {initramfs : Bytes}
    (isInitramfs : call.instance_.initramfs = some initramfs) {disk final : Disk Tree} {value : Unit}
    (finds : FindsOwn tools call initramfs disk)
    (isOk : repackKernelRamdisk tools call disk = (.ok value, final)) :
    HasOwnImage tools call.instance_ initramfs final := by
  simp only [repackKernelRamdisk, isInitramfs, Option.isNone_some, Bool.and_false,
    Bool.false_eq_true, if_false, repackInitramfs, Action.bind_eq_ok, Action.expect_eq_ok,
    Action.attempt_eq_ok] at isOk
  rcases isOk with ⟨_, _, ⟨-, rfl⟩, _, _, ⟨-, rfl⟩, _, _, ⟨-, rfl⟩, result, between, first, isOk⟩
  cases result with
  | error failure =>
      rw [Action.pure_eq_ok] at isOk
      rcases isOk with ⟨-, rfl⟩
      obtain ⟨image, isImage, boots⟩ := finds.succeeds.resolve_left fun repackable => by
        have succeeds := (repackVendorBootImage_ok_iff tools (tools.splitModules initramfs)).mpr
          repackable
        rw [first] at succeeds
        cases succeeds
      have kept := errorKeeps_repackVendorBootImage tools call.instance_ _ disk failure _ first
      exact ⟨image, by rw [kept, isImage], boots⟩
  | ok value =>
      rcases repack_eq_ok first with ⟨ramdisk, dtb, bootconfig, built, -, sources⟩
      exact ⟨_, withEmptyRamdisk_eq_ok built isOk, finds.boots sources⟩

/-- As long as each call finds what is its instance's own, every call that succeeds has left the
image of its instance. -/
theorem instances_boot_own (tools : RamdiskTools Tree) (disk : Disk Tree) (calls : List RepackCall)
    (finds : Run.Along (RepackSession.step tools)
      (fun session call => ∀ initramfs ∈ call.instance_.initramfs,
        FindsOwn tools call initramfs session.disk) ⟨disk, none⟩ calls) :
    Run.Always (RepackSession.step tools) (RepackSession.BootsOwn tools) ⟨disk, none⟩ calls := by
  have start : RepackSession.BootsOwn tools ⟨disk, none⟩ := by
    intro instance_ isLast
    cases isLast
  refine Run.always_of_along ?_ (fun _ boots => boots) start finds
  intro session call next _ finds stepped
  rw [RepackSession.step] at stepped
  split at stepped
  · next final isOk =>
    rcases Option.some.inj stepped with rfl
    intro instance_ isLast initramfs isInitramfs
    rcases Option.some.inj isLast with rfl
    exact hasOwnImage_of_ok isInitramfs (finds initramfs isInitramfs) isOk
  · rcases Option.some.inj stepped with rfl
    intro instance_ isLast
    cases isLast

/-! ## Two instances -/

def simpleTools : RamdiskTools Bytes where
  emptyDir := []
  extract stops ramdisk _ := match stops with
    | none => ramdisk
    | some count => ramdisk.take count
  removeModules _ tree := tree
  pack tree := tree
  splitModules ramdisk := ramdisk

/-- The instance has its own byte as its dtb and its vendor ramdisk. -/
def simpleInstance (id : Nat) (byte : UInt8) : InstanceSpecific where
  id
  vendorBootImage := ⟨2048, 0, 0, [byte], [], 0, [], [byte], 0, []⟩
  hasKernelPath := false
  initramfs := some [9]
  bootconfigSupported := true

def simpleCall (instance_ : InstanceSpecific) : RepackCall where
  instance_
  vendorBootHasContent := true
  initramfsCopied := true
  superRepacked := true
  emptyRamdiskCreated := true
  faults _ := none
  emptyFaults _ := none

def emptyDisk : Disk Bytes := ⟨fun _ => none, [], fun _ => none⟩

theorem instances_boot_own_twice :
    Run.Always (RepackSession.step simpleTools) (RepackSession.BootsOwn simpleTools)
      ⟨emptyDisk, none⟩ [simpleCall (simpleInstance 0 1), simpleCall (simpleInstance 0 1)] := by
  refine instances_boot_own simpleTools emptyDisk _ (.cons rfl ?_ (.cons rfl ?_ trivial))
  · intro initramfs isInitramfs
    rcases Option.some.inj isInitramfs with rfl
    exact ⟨.inl rfl, .inr ⟨rfl, by simp [emptyDisk], rfl, rfl, rfl⟩,
      .inl ((repackVendorBootImage_ok_iff simpleTools [9]).mp rfl)⟩
  · intro initramfs isInitramfs
    rcases Option.some.inj isInitramfs with rfl
    exact ⟨.inr ⟨rfl, rfl⟩, .inl rfl,
      .inl ((repackVendorBootImage_ok_iff simpleTools [9]).mp rfl)⟩

/-- The second instance gets the dtb and the ramdisk of the first one. -/
theorem other_instance_booted :
    ¬ Run.Always (RepackSession.step simpleTools) (RepackSession.BootsOwn simpleTools)
      ⟨emptyDisk, none⟩ [simpleCall (simpleInstance 0 1), simpleCall (simpleInstance 1 2)] := by
  intro always
  rcases (always.final rfl) (simpleInstance 1 2) rfl [9] rfl with ⟨image, isImage, boots⟩
  rcases Option.some.inj isImage with rfl
  exact absurd boots.dtb (by decide)

end Cuttlefish.AssembleCvd
