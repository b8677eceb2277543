import Cuttlefish.Confui.Message
import Cuttlefish.Foundation.LittleEndian
import Cuttlefish.Result
import Mathlib.Data.List.DropRight

/-! # The initrd for gem5

`RepackGem5BootImage` writes the ramdisks and, with its length and checksum, the bootconfig as a
bootloader would. -/

namespace Cuttlefish.AssembleCvd.Gem5BootImage

open Bytes Confui

/-! ## Streams -/

structure OutputStream where
  content : Bytes
  failed : Bool

namespace OutputStream

def opened : OutputStream := ⟨[], false⟩

def write (stream : OutputStream) (bytes : Bytes) : OutputStream :=
  if stream.failed then stream else { stream with content := stream.content ++ bytes }

def insertBuffer (stream : OutputStream) (bytes : Bytes) : OutputStream :=
  if stream.failed then stream
  else if bytes = [] then { stream with failed := true }
  else stream.write bytes

end OutputStream

def resize (text : Bytes) (size : Nat) : Bytes := text.take size ++ zeros (size - text.length)

/-- `std::istream::read` into the memory of a string. What does not fit into it is not part of
the string. -/
def readInto (text : Bytes) (position : Nat) (bytes : Bytes) : Bytes :=
  (text.writeAt position bytes).take text.length

/-- `find_last_not_of('\0')`. -/
def findLastNotOfNull (text : Bytes) : Option Nat :=
  match (text.rdropWhile (· = 0)).length with
  | 0 => none
  | index + 1 => some index

def erase (text : Bytes) : Option Nat → Result Bytes
  | some position => .ok (text.take position)
  | none => .error (.abort "std::out_of_range")

/-! ## The bootconfig -/

def fixedLines : Bytes := ascii
  "androidboot.slot_suffix=_a\nandroidboot.force_normal_boot=1\nandroidboot.verifiedbootstate=orange\n"

def tellEnd (content : Option Bytes) : Int := (content.map fun bytes => (bytes.length : Int)).getD (-1)

def readBootconfig (vendorBootconfig : Bytes) (persistentBootconfig : Option Bytes) : Bytes :=
  let vbSize := tellEnd (some vendorBootconfig)
  let pbSize := tellEnd persistentBootconfig
  let bootconfig := resize fixedLines (fixedLines.length + (vbSize + pbSize)).toNat
  let bootconfig := readInto bootconfig fixedLines.length vendorBootconfig
  readInto bootconfig (fixedLines.length + vbSize.toNat) (persistentBootconfig.getD [])

def charToUInt32 (charIsSigned : Bool) (byte : UInt8) : UInt32 :=
  if charIsSigned && 128 ≤ byte then byte.toUInt32 - 256 else byte.toUInt32

def bootconfigChecksum (charIsSigned : Bool) (bootconfig : Bytes) : UInt32 :=
  bootconfig.foldl (fun csum byte => csum + charToUInt32 charIsSigned byte) 0

def trailer : Bytes := ascii "#BOOTCONFIG\n"

/-- `RepackGem5BootImage` with the contents of the files that it reads. -/
def repackGem5BootImage (charIsSigned : Bool) (bootRamdisk vendorBootRamdisk : Bytes)
    (vendorBootconfig : Bytes) (persistentBootconfig : Option Bytes) : Result Bytes := do
  let bootconfig := readBootconfig vendorBootconfig persistentBootconfig
  let bootconfig ← erase bootconfig (findLastNotOfNull bootconfig)
  let finalRd := ((OutputStream.opened.insertBuffer bootRamdisk).insertBuffer vendorBootRamdisk).write
    bootconfig
  let finalRd := finalRd.write (LittleEndian.encode 4 bootconfig.length)
  let finalRd := finalRd.write
    (LittleEndian.encode 4 (bootconfigChecksum charIsSigned bootconfig).toNat)
  return (finalRd.write trailer).content

/-! ## What a guest kernel expects -/

def expectedBootconfig (vendorBootconfig : Bytes) (persistentBootconfig : Option Bytes) : Bytes :=
  (fixedLines ++ vendorBootconfig ++ persistentBootconfig.getD []).rdropWhile (· = 0)

def expectedInitrd (bootRamdisk vendorBootRamdisk vendorBootconfig : Bytes)
    (persistentBootconfig : Option Bytes) : Bytes :=
  let bootconfig := expectedBootconfig vendorBootconfig persistentBootconfig
  bootRamdisk ++ vendorBootRamdisk ++ bootconfig ++ LittleEndian.encode 4 bootconfig.length ++
    LittleEndian.encode 4 (bootconfig.map (·.toNat)).sum ++ trailer

/-! ## The last byte of the bootconfig -/

theorem resize_append (text : Bytes) (count : Nat) :
    resize text (text.length + count) = text ++ zeros count := by
  rw [resize, List.take_of_length_le (Nat.le_add_right _ _), Nat.add_sub_cancel_left]

theorem readInto_end (front bytes : Bytes) (count : Nat) :
    readInto (front ++ zeros count) front.length bytes =
      front ++ (bytes.take count ++ zeros (count - bytes.length)) := by
  by_cases empty : bytes = []
  · rw [readInto, writeAt, if_pos empty, List.take_length, empty, List.take_nil, List.length_nil,
      Nat.sub_zero, List.nil_append]
  · have isWritten : (front ++ zeros count).writeAt front.length bytes =
        front ++ (bytes ++ zeros (count - bytes.length)) := by
      rw [writeAt, if_neg empty, List.take_left, List.drop_append, List.length_append]
      have noGap : front.length - (front.length + (zeros count).length) = 0 := by omega
      rw [noGap, List.replicate_zero, List.append_nil,
        List.drop_eq_nil_of_le (Nat.le_add_right _ _), Nat.add_sub_cancel_left, List.nil_append,
        zeros, List.drop_replicate, List.append_assoc]
      rfl
    rw [readInto, isWritten, List.length_append, length_zeros, List.take_length_add_append,
      List.take_append, zeros, List.take_replicate,
      Nat.min_self]

theorem readBootconfig_some (vendorBootconfig persistentBootconfig : Bytes) :
    readBootconfig vendorBootconfig (some persistentBootconfig) =
      fixedLines ++ vendorBootconfig ++ persistentBootconfig := by
  have size : (fixedLines.length + (tellEnd (some vendorBootconfig) +
      tellEnd (some persistentBootconfig))).toNat =
      fixedLines.length + (vendorBootconfig.length + persistentBootconfig.length) := by
    simp only [tellEnd, Option.map_some, Option.getD_some]
    omega
  have second := readInto_end (fixedLines ++ vendorBootconfig) persistentBootconfig
    persistentBootconfig.length
  rw [List.take_length, Nat.sub_self, List.length_append] at second
  rw [readBootconfig, size, resize_append, readInto_end, List.take_of_length_le (Nat.le_add_right _ _), Nat.add_sub_cancel_left,
    ← List.append_assoc]
  refine second.trans ?_
  rw [zeros, List.replicate_zero, List.append_nil]

theorem readBootconfig_none (vendorBootconfig : Bytes) :
    readBootconfig vendorBootconfig none = (fixedLines ++ vendorBootconfig).dropLast := by
  have nothing (text : Bytes) (position : Nat) : readInto text position [] = text := by
    rw [readInto, writeAt, if_pos rfl, List.take_length]
  have sizeOfFile : tellEnd (some vendorBootconfig) = vendorBootconfig.length := rfl
  have noFile : tellEnd none = -1 := rfl
  rw [readBootconfig, sizeOfFile, noFile, Option.getD_none, nothing]
  by_cases empty : vendorBootconfig = []
  · subst empty
    rw [nothing]
    rw [fixedLines, ascii]
    -- the kernel is slow to decode literals
    rw [String.toList_ofList]
    decide +kernel
  · have positive := List.length_pos_iff.mpr empty
    have size : (fixedLines.length + ((vendorBootconfig.length : Int) + -1)).toNat =
        fixedLines.length + (vendorBootconfig.length - 1) := by
      omega
    have noRoom : vendorBootconfig.length - 1 - vendorBootconfig.length = 0 := by omega
    rw [size, resize_append, readInto_end, noRoom, List.dropLast_append_of_ne_nil empty,
      List.dropLast_eq_take]
    simp [zeros]

/-! ## The length of the file -/

theorem erase_findLastNotOfNull {text : Bytes} (notNull : text.rdropWhile (· = 0) ≠ []) :
    erase text (findLastNotOfNull text) = .ok (text.rdropWhile (· = 0)).dropLast := by
  rcases Nat.exists_eq_succ_of_ne_zero
    (List.length_pos_iff.mpr notNull).ne' with ⟨index, isLength⟩
  have isPrefix : text.rdropWhile (· = 0) = text.take (index + 1) := by
    have isTaken := List.prefix_iff_eq_take.mp (List.rdropWhile_prefix (fun byte => byte = 0) text)
    rwa [isLength] at isTaken
  have found : findLastNotOfNull text = some index := by
    rw [findLastNotOfNull, isLength]
  rw [found, erase, List.dropLast_eq_take, isLength, isPrefix, List.take_take,
    Nat.succ_sub_one, Nat.min_eq_left (Nat.le_succ _)]

theorem length_rdropWhile_dropLast (text : Bytes) :
    (text.dropLast.rdropWhile (· = 0)).length ≤ (text.rdropWhile (· = 0)).length := by
  rcases List.eq_nil_or_concat' text with rfl | ⟨front, last, rfl⟩
  · exact Nat.le_refl _
  · rw [List.dropLast_concat, List.rdropWhile_concat]
    split
    · exact Nat.le_refl _
    · rw [List.length_append]
      exact Nat.le_trans (List.rdropWhile_prefix _ front).length_le (Nat.le_add_right _ _)

theorem mem_readBootconfig (vendorBootconfig : Bytes) (persistentBootconfig : Option Bytes) :
    97 ∈ readBootconfig vendorBootconfig persistentBootconfig := by
  have isFixed : 97 ∈ fixedLines.dropLast := by
    rw [fixedLines, ascii]
    rw [String.toList_ofList]
    decide +kernel
  cases persistentBootconfig with
  | some persistentBootconfig =>
      rw [readBootconfig_some, List.append_assoc]
      exact List.mem_append_left _ (List.dropLast_subset _ isFixed)
  | none =>
      rw [readBootconfig_none]
      by_cases empty : vendorBootconfig = []
      · rw [empty, List.append_nil]
        exact isFixed
      · rw [List.dropLast_append_of_ne_nil empty]
        exact List.mem_append_left _ (List.dropLast_subset _ isFixed)

theorem exists_shorter_bootconfig (vendorBootconfig : Bytes)
    (persistentBootconfig : Option Bytes) :
    ∃ bootconfig, erase (readBootconfig vendorBootconfig persistentBootconfig)
        (findLastNotOfNull (readBootconfig vendorBootconfig persistentBootconfig)) =
          .ok bootconfig ∧
      bootconfig.length < (expectedBootconfig vendorBootconfig persistentBootconfig).length := by
  have notNull : (readBootconfig vendorBootconfig persistentBootconfig).rdropWhile (· = 0) ≠ [] := by
    intro isNil
    have isNull := List.rdropWhile_eq_nil_iff.mp isNil 97 (mem_readBootconfig _ _)
    revert isNull
    decide
  refine ⟨_, erase_findLastNotOfNull notNull, ?_⟩
  have notLonger : ((readBootconfig vendorBootconfig persistentBootconfig).rdropWhile
      (· = 0)).length ≤ (expectedBootconfig vendorBootconfig persistentBootconfig).length := by
    cases persistentBootconfig with
    | some persistentBootconfig =>
        rw [readBootconfig_some]
        exact Nat.le_refl _
    | none =>
        rw [readBootconfig_none, expectedBootconfig, Option.getD_none, List.append_nil]
        exact length_rdropWhile_dropLast _
  rw [List.length_dropLast]
  have positive := List.length_pos_iff.mpr notNull
  omega

/-- The initrd is never the one that is expected: it is too short. -/
theorem repackGem5BootImage_ne_expected (charIsSigned : Bool)
    (bootRamdisk vendorBootRamdisk vendorBootconfig : Bytes)
    (persistentBootconfig : Option Bytes) :
    repackGem5BootImage charIsSigned bootRamdisk vendorBootRamdisk vendorBootconfig
        persistentBootconfig ≠
      .ok (expectedInitrd bootRamdisk vendorBootRamdisk vendorBootconfig persistentBootconfig) := by
  rcases exists_shorter_bootconfig vendorBootconfig persistentBootconfig with
    ⟨bootconfig, isErased, shorter⟩
  have written : ∃ content, repackGem5BootImage charIsSigned bootRamdisk vendorBootRamdisk
      vendorBootconfig persistentBootconfig = .ok content ∧
      content.length ≤
        bootRamdisk.length + vendorBootRamdisk.length + bootconfig.length + 8 + trailer.length := by
    refine ⟨_, by rw [repackGem5BootImage]; dsimp only; rw [isErased]; rfl, ?_⟩
    by_cases noBootRamdisk : bootRamdisk = []
    · simp [OutputStream.opened, OutputStream.insertBuffer, OutputStream.write, noBootRamdisk]
    · by_cases noVendorRamdisk : vendorBootRamdisk = []
      · simp [OutputStream.opened, OutputStream.insertBuffer, OutputStream.write, noBootRamdisk,
          noVendorRamdisk]
        omega
      · simp [OutputStream.opened, OutputStream.insertBuffer, OutputStream.write, noBootRamdisk,
          noVendorRamdisk]
        omega
  rcases written with ⟨content, isWritten, notLonger⟩
  intro isExpected
  rw [isWritten] at isExpected
  have sameLength := congrArg List.length (Except.ok.inj isExpected)
  simp only [expectedInitrd, List.length_append, LittleEndian.length_encode] at sameLength
  omega

/-- The line end of "a=b" is missing. -/
theorem last_byte_of_bootconfig_lost :
    ¬ ∀ (charIsSigned : Bool) (bootRamdisk vendorBootRamdisk vendorBootconfig : Bytes)
        (persistentBootconfig : Option Bytes),
      repackGem5BootImage charIsSigned bootRamdisk vendorBootRamdisk vendorBootconfig
          persistentBootconfig =
        .ok (expectedInitrd bootRamdisk vendorBootRamdisk vendorBootconfig
          persistentBootconfig) := by
  intro always
  have expected := always true [1] [2] (ascii "a=b\n") (some [])
  have written : repackGem5BootImage true [1] [2] (ascii "a=b\n") (some []) =
      .ok ([1, 2] ++ fixedLines ++ ascii "a=b" ++ [99, 0, 0, 0, 110, 38, 0, 0] ++ trailer) := by
    rw [repackGem5BootImage, readBootconfig, fixedLines, ascii]
    repeat rw [String.toList_ofList]
    decide +kernel
  rw [written] at expected
  revert expected
  decide +kernel

end Cuttlefish.AssembleCvd.Gem5BootImage
