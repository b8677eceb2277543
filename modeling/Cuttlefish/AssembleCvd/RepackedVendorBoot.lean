import Cuttlefish.AssembleCvd.KernelRamdiskRepacker

/-! # When a vendor boot image is repacked

The weakest precondition of `RepackVendorBootImage`. It depends on the operations that fail and on
which of the shared files are there, not on what is in them. -/

namespace Cuttlefish.AssembleCvd

open Cuttlefish.Action

variable {Tree : Type} {faults : Faults} {disk : Disk Tree}

def Disk.has (disk : Disk Tree) (file : SharedFile) : Bool := (disk.files file).isSome

theorem Disk.has_write (disk : Disk Tree) (file : SharedFile) (content : Bytes) :
    (disk.write file content).has = Function.update disk.has file true := by
  funext other
  by_cases same : other = file
  · subst same
    simp [has, write]
  · simp [has, write, same]

theorem Disk.has_withStageDir (disk : Disk Tree) (stageDir : Tree) :
    ({ disk with stageDir } : Disk Tree).has = disk.has := rfl

theorem write_write (disk : Disk Tree) (file : SharedFile) (first second : Bytes) :
    (disk.write file first).write file second = disk.write file second := by
  simp [Disk.write]

/-- Nothing fails that is looked at, and the files that are kept are all there. -/
structure Repackable (faults : Faults) (bootconfigSupported : Bool) (disk : Disk Tree) : Prop where
  opens : ∀ operation ∈ [Operation.openVendorBoot, .openRamdisk, .openDtb], faults operation = none
  unpacks : (disk.has .concatenatedVendorRamdisk = true ∧ disk.has .dtb = true ∧
      (bootconfigSupported = true → disk.has .bootconfig = true)) ∨
    (disk.has .concatenatedVendorRamdisk = false ∧
      ∀ operation ∈ [Operation.creatConcatenated, .copyRamdisk, .creatDtb, .copyDtb,
        .creatBootconfig, .copyBootconfig], faults operation = none)
  repacks : disk.has .vendorRamdiskRepacked = true ∨
    ∀ operation ∈ [Operation.unpackRamdisk, .removeModules, .packRamdisk, .openRepacked],
      faults operation = none
  opensBootconfig : bootconfigSupported = true → faults .openBootconfig = none
  builds : ∀ operation ∈ [Operation.buildV4, .createTmp, .copyImage, .addHashFooter, .renameTmp],
    faults operation = none

/-! ## Files -/

theorem succeeds_creat {fault : Option Nat} {file : SharedFile} {post : Unit → Disk Tree → Prop} :
    Succeeds (creat fault file) post disk ↔ fault = none ∧ post () (disk.write file []) := by
  simp only [creat, succeeds_bind, succeeds_expect, succeeds_modify, Option.isNone_iff_eq_none]

theorem succeeds_copyTo {fault : Option Nat} {file : SharedFile} {content : Bytes}
    {post : Unit → Disk Tree → Prop} :
    Succeeds (copyTo fault file content) post disk ↔
      fault = none ∧ post () (disk.write file content) := by
  simp only [copyTo, succeeds_bind, succeeds_expect, succeeds_modify, Option.isNone_iff_eq_none]
  exact and_congr_right fun noFault => by rw [noFault]

theorem succeeds_openReadOnly {fault : Option Nat} {file : SharedFile}
    {post : Bytes → Disk Tree → Prop} :
    Succeeds (openReadOnly fault file) post disk ↔
      fault = none ∧ ∃ content, disk.files file = some content ∧ post content disk := by
  simp only [openReadOnly, succeeds_bind, succeeds_get, succeeds_expect, succeeds_pure,
    Bool.and_eq_true, Option.isNone_iff_eq_none, and_assoc]
  cases disk.files file with
  | none => simp
  | some content => simp

/-! ## Phases -/

theorem succeeds_unpack {vendorBoot : VendorBoot} {post : VendorBoot → Disk Tree → Prop} :
    Succeeds (unpackVendorBootImageIfNotUnpacked faults vendorBoot) post disk ↔
      faults .openVendorBoot = none ∧
        (disk.has .concatenatedVendorRamdisk = true ∧ post vendorBoot disk ∨
          disk.has .concatenatedVendorRamdisk = false ∧
            (∀ operation ∈ [Operation.creatConcatenated, .copyRamdisk, .creatDtb, .copyDtb,
              .creatBootconfig, .copyBootconfig], faults operation = none) ∧
            post vendorBoot (((disk.write .concatenatedVendorRamdisk
              vendorBoot.vendorRamdisk).write .dtb vendorBoot.dtb).write .bootconfig
                vendorBoot.bootconfig)) := by
  simp only [unpackVendorBootImageIfNotUnpacked, succeeds_bind, succeeds_get, succeeds_expect,
    succeeds_ite, succeeds_pure, Option.isNone_iff_eq_none, unpackParts, succeeds_creat,
    succeeds_copyTo, write_write]
  rw [Disk.has]
  cases disk.files .concatenatedVendorRamdisk with
  | none => simp [and_assoc]
  | some ramdisk => simp

theorem succeeds_newRamdiskFile {tools : RamdiskTools Tree} {kernelModulesRamdisk : Bytes}
    {post : SharedFile → (SharedFile → Bool) → Prop}
    (opened : ∀ file has, post file has → has file = true)
    (unpacked : disk.has .concatenatedVendorRamdisk = true) :
    Succeeds (newRamdiskFile tools faults (some kernelModulesRamdisk))
        (fun file disk => post file disk.has) disk ↔
      (disk.has .vendorRamdiskRepacked = true ∨
        ∀ operation ∈ [Operation.unpackRamdisk, .removeModules, .packRamdisk, .openRepacked],
          faults operation = none) ∧
      post .vendorRamdiskRepacked (Function.update disk.has .vendorRamdiskRepacked true) := by
  rcases Option.isSome_iff_exists.mp unpacked with ⟨ramdisk, isRamdisk⟩
  simp only [newRamdiskFile, succeeds_bind, succeeds_get, succeeds_ite, succeeds_pure,
    repackVendorRamdisk, unpackRamdisk, removeModules, writeRepacked, succeeds_openReadOnly,
    succeeds_modify, succeeds_expect, Option.isNone_iff_eq_none, Disk.has_write]
  cases isRepacked : disk.files .vendorRamdiskRepacked with
  | some repacked =>
      have there : disk.has .vendorRamdiskRepacked = true := by rw [Disk.has, isRepacked]; rfl
      have same := Function.update_eq_self SharedFile.vendorRamdiskRepacked disk.has
      rw [there] at same
      simp [same, there]
  | none =>
      have absent : disk.has .vendorRamdiskRepacked = false := by rw [Disk.has, isRepacked]; rfl
      have missed : ¬post .vendorRamdiskRepacked disk.has := by
        intro holds
        exact absurd (opened _ _ holds) (by rw [absent]; decide)
      cases opens : faults .openRepacked with
      | none => simp [isRamdisk, absent, Disk.has_withStageDir, opens, and_assoc]
      | some fault => simp [isRamdisk, absent, Disk.has_withStageDir, opens, missed]

theorem succeeds_openBootconfig {bootconfigSupported : Bool} {post : Disk Tree → Prop} :
    Succeeds (openBootconfig faults bootconfigSupported) (fun _ => post) disk ↔
      (bootconfigSupported = true →
        faults .openBootconfig = none ∧ disk.has .bootconfig = true) ∧ post disk := by
  cases bootconfigSupported with
  | false => simp [openBootconfig, succeeds_pure]
  | true =>
      simp [openBootconfig, succeeds_openReadOnly, Disk.has, Option.isSome_iff_exists, and_assoc]

def Buildable (faults : Faults) (bootconfigSupported : Bool) (ramdiskFile : SharedFile)
    (has : SharedFile → Bool) : Prop :=
  (∀ operation ∈ [Operation.openRamdisk, .openDtb], faults operation = none) ∧
    (∀ operation ∈ [Operation.buildV4, .createTmp, .copyImage, .addHashFooter, .renameTmp],
      faults operation = none) ∧
    has ramdiskFile = true ∧ has .dtb = true ∧
    (bootconfigSupported = true → faults .openBootconfig = none ∧ has .bootconfig = true)

theorem succeeds_buildImage {id : Nat} {unpack : VendorBoot} {bootconfigSupported : Bool}
    {ramdiskFile : SharedFile} :
    Succeeds (buildImage faults id unpack bootconfigSupported ramdiskFile) (fun _ _ => True) disk ↔
      Buildable faults bootconfigSupported ramdiskFile disk.has := by
  simp only [Buildable, buildImage, succeeds_bind, succeeds_get, succeeds_expect, succeeds_openReadOnly,
    succeeds_modify, succeeds_openBootconfig, Option.isNone_iff_eq_none, List.forall_mem_cons,
    List.not_mem_nil, false_implies, implies_true, and_true]
  simp only [Disk.has, Option.isSome_iff_exists]
  grind

/-! ## All phases -/

theorem succeeds_repack {tools : RamdiskTools Tree} {id : Nat} {unpack : VendorBoot}
    {bootconfigSupported : Bool} {kernelModulesRamdisk : Bytes}
    (unpacked : disk.has .concatenatedVendorRamdisk = true) :
    Succeeds (newRamdiskFile tools faults (some kernelModulesRamdisk))
        (fun file => Succeeds (buildImage faults id unpack bootconfigSupported file)
          fun _ _ => True) disk ↔
      (disk.has .vendorRamdiskRepacked = true ∨
        ∀ operation ∈ [Operation.unpackRamdisk, .removeModules, .packRamdisk, .openRepacked],
          faults operation = none) ∧
      Buildable faults bootconfigSupported .vendorRamdiskRepacked
        (Function.update disk.has .vendorRamdiskRepacked true) := by
  have opened : ∀ file has, Buildable faults bootconfigSupported file has → has file = true :=
    fun file has buildable => buildable.2.2.1
  have built : (fun file => Succeeds (buildImage faults id unpack bootconfigSupported file)
      fun _ _ => True) = fun file (disk : Disk Tree) =>
        Buildable faults bootconfigSupported file disk.has := by
    funext file disk
    exact propext succeeds_buildImage
  rw [built]
  exact succeeds_newRamdiskFile opened unpacked

theorem repackVendorBootImage_ok_iff (tools : RamdiskTools Tree) {instance_ : InstanceSpecific}
    (kernelModulesRamdisk : Bytes) :
    (repackVendorBootImage tools faults instance_ (some kernelModulesRamdisk) disk).1 = .ok () ↔
      Repackable faults instance_.bootconfigSupported disk := by
  have unit : (fun (result : Unit) (_ : Disk Tree) => result = ()) = fun _ _ => True := by
    funext result _
    simp
  rw [succeeds_iff, unit, repackVendorBootImage]
  simp only [succeeds_bind, succeeds_unpack]
  constructor
  · rintro ⟨opens, ⟨isThere, built⟩ | ⟨absent, unpacks, built⟩⟩
    · obtain ⟨repacks, opened, builds, -, dtb, bootconfig⟩ := (succeeds_repack isThere).mp built
      exact ⟨List.forall_mem_cons.mpr ⟨opens, opened⟩,
        .inl ⟨isThere, dtb, fun supported => (bootconfig supported).2⟩, repacks,
        fun supported => (bootconfig supported).1, builds⟩
    · obtain ⟨repacks, opened, builds, -, -, bootconfig⟩ :=
        (succeeds_repack (by simp [Disk.has_write])).mp built
      simp only [Disk.has_write] at repacks
      exact ⟨List.forall_mem_cons.mpr ⟨opens, opened⟩, .inr ⟨absent, unpacks⟩, repacks,
        fun supported => (bootconfig supported).1, builds⟩
  · intro repackable
    rcases List.forall_mem_cons.mp repackable.opens with ⟨opens, opened⟩
    refine ⟨opens, ?_⟩
    rcases repackable.unpacks with ⟨isThere, dtb, bootconfig⟩ | ⟨absent, unpacks⟩
    · refine .inl ⟨isThere, (succeeds_repack isThere).mpr ⟨repackable.repacks, opened,
        repackable.builds, rfl, dtb, fun supported => ?_⟩⟩
      exact ⟨repackable.opensBootconfig supported, bootconfig supported⟩
    · refine .inr ⟨absent, unpacks, (succeeds_repack (by simp [Disk.has_write])).mpr ⟨?_, opened,
        repackable.builds, rfl, by simp [Disk.has_write], fun supported => ?_⟩⟩
      · simp only [Disk.has_write]
        exact repackable.repacks
      · exact ⟨repackable.opensBootconfig supported, by simp [Disk.has_write]⟩

end Cuttlefish.AssembleCvd
