import Cuttlefish.AssembleCvd.VendorBootImage
import Cuttlefish.Foundation.LittleEndian

/-! # Vendor boot images are read as they were built -/

namespace Cuttlefish.AssembleCvd

open Io ConcatReaderSeeker

namespace VendorBootImage

variable {bootimg : VendorBootimg}

/-- Building fails, or what is built is read as what was given. -/
def ReadsBack (bootimg : VendorBootimg) (memory : Bytes) (builder : VendorBootImageBuilder)
    (vendorRamdisk dtb bootconfig : Bytes) : Prop :=
  (builder.buildV4 bootimg memory).ReturnsError ∨
    ∃ stream image, builder.buildV4 bootimg memory = .ok stream ∧
      read bootimg stream = .ok image ∧ image.pageSize = builder.pageSize ∧
      image.kernelAddr = builder.kernelAddr ∧ image.ramdiskAddr = builder.ramdiskAddr ∧
      image.kernelCommandLine = .ok builder.kernelCommandLine ∧
      image.tagsAddr = builder.tagsAddr ∧ image.name = .ok builder.name ∧
      image.dtbAddr = builder.dtbAddr ∧
      (∃ window, image.vendorRamdisk bootimg = .ok window ∧
        ReadsToString OpenReader.reader window vendorRamdisk) ∧
      (∃ window, image.dtb bootimg = .ok window ∧ ReadsToString OpenReader.reader window dtb) ∧
      ∃ window, image.bootconfig bootimg = .ok (some window) ∧
        ReadsToString OpenReader.reader window bootconfig

/-- The parts that a builder was given. -/
structure Given (builder : VendorBootImageBuilder) (vendorRamdisk dtb bootconfig : Bytes) :
    Prop where
  vendorRamdisk : Contains builder.vendorRamdisk vendorRamdisk
  dtb : Contains builder.dtb dtb
  bootconfig : Contains builder.bootconfig bootconfig
  cmdlineNoNull : 0 ∉ builder.kernelCommandLine
  nameNoNull : 0 ∉ builder.name

structure TextsFit (bootimg : VendorBootimg) (builder : VendorBootImageBuilder) : Prop where
  cmdline : builder.kernelCommandLine.length < bootimg.cmdlineSize
  name : builder.name.length < bootimg.nameSize

variable {memory : Bytes} {builder : VendorBootImageBuilder}
  {vendorRamdisk dtb bootconfig : Bytes}

theorem sized_header (laws : bootimg.Laws) (length : memory.length = bootimg.sizeofV4)
    (given : Given builder vendorRamdisk dtb bootconfig) (fits : TextsFit bootimg builder)
    (vendorRamdiskSize dtbSize bootconfigSize : Nat) :
    bootimg.Sized (builder.header bootimg memory vendorRamdiskSize dtbSize bootconfigSize) where
  magic := rfl
  cmdline := by
    have array := laws.length_cmdline length
    exact (length_snprintf given.cmdlineNoNull (array.symm ▸ fits.cmdline)).trans array
  name := by
    have array := laws.length_name length
    exact (length_snprintf given.nameNoNull (array.symm ▸ fits.name)).trans array

theorem buildV4_eq (laws : bootimg.Laws) (length : memory.length = bootimg.sizeofV4)
    (given : Given builder vendorRamdisk dtb bootconfig) (fits : TextsFit bootimg builder)
    (page : 0 < builder.pageSize.toNat) :
    ∃ members contents, builder.buildV4 bootimg memory = create members ∧
      Opened members contents ∧ members ≠ [] ∧
      (vendorRamdisk.length < 4294967296 → dtb.length < 4294967296 →
        bootconfig.length < 4294967296 →
        contents.flatten = padded builder.pageSize.toNat (bootimg.storeV4 memory
          (builder.header bootimg memory vendorRamdisk.length dtb.length bootconfig.length)) ++
            (padded builder.pageSize.toNat vendorRamdisk ++ padded builder.pageSize.toNat dtb ++
              padded builder.pageSize.toNat bootconfig)) := by
  rcases partLength_eq given.vendorRamdisk with ⟨ramdiskPart, ramdiskLength, containsRamdisk⟩
  rcases partLength_eq given.dtb with ⟨dtbPart, dtbLength, containsDtb⟩
  rcases partLength_eq given.bootconfig with ⟨bootconfigPart, bootconfigLength, containsBootconfig⟩
  rcases partMembers_opened containsRamdisk page (UInt32.ofNat vendorRamdisk.length).toNat with
    ⟨ramdiskMembers, ramdiskContents, isRamdisk, openedRamdisk, flatRamdisk⟩
  rcases partMembers_opened containsDtb page (UInt32.ofNat dtb.length).toNat with
    ⟨dtbMembers, dtbContents, isDtb, openedDtb, flatDtb⟩
  rcases partMembers_opened containsBootconfig page (UInt32.ofNat bootconfig.length).toNat with
    ⟨bootconfigMembers, bootconfigContents, isBootconfig, openedBootconfig, flatBootconfig⟩
  have headerLength := laws.length_store length
    (sized_header laws length given fits vendorRamdisk.length dtb.length bootconfig.length)
  refine ⟨_, _, ?_, (((opened_data (bootimg.storeV4 memory (builder.header bootimg memory
    vendorRamdisk.length dtb.length bootconfig.length))).append (opened_data (Bytes.zeros
      ((builder.pageSize.toNat - bootimg.sizeofV4 % builder.pageSize.toNat) %
        builder.pageSize.toNat)))).append openedRamdisk).append openedDtb
          |>.append openedBootconfig, by simp, fun ramdiskFits dtbFits bootconfigFits => ?_⟩
  · have headerPadding := pagePadding_eq page bootimg.sizeofV4
    simp only [VendorBootImageBuilder.buildV4, ramdiskLength, dtbLength, bootconfigLength,
      fits.cmdline, fits.name, decide_true, cfExpect_true, bind, Except.bind,
      VendorBootImageBuilder.header, headerPadding, isRamdisk, isDtb, isBootconfig]
    rfl
  · have exact_ : ∀ {size : Nat}, size < 4294967296 → (UInt32.ofNat size).toNat = size :=
      fun small => UInt32.toNat_ofNat_of_lt small
    simp only [List.flatten_append, flatRamdisk (exact_ ramdiskFits), flatDtb (exact_ dtbFits),
      flatBootconfig (exact_ bootconfigFits)]
    simp [padded, headerLength]

theorem buildV4_long (given : Given builder vendorRamdisk dtb bootconfig)
    (long : ¬ TextsFit bootimg builder) : (builder.buildV4 bootimg memory).ReturnsError := by
  rcases partLength_eq given.vendorRamdisk with ⟨ramdiskPart, ramdiskLength, -⟩
  simp only [VendorBootImageBuilder.buildV4, ramdiskLength, bind, Except.bind]
  by_cases cmdline : builder.kernelCommandLine.length < bootimg.cmdlineSize
  · have name : ¬ builder.name.length < bootimg.nameSize := fun name => long ⟨cmdline, name⟩
    simp only [cmdline, decide_true, cfExpect_true, name, decide_false, cfExpect_false]
    exact Result.returnsError_err _
  · simp only [cmdline, decide_false, cfExpect_false]
    exact Result.returnsError_err _

theorem buildV4_no_pages (given : Given builder vendorRamdisk dtb bootconfig)
    (fits : TextsFit bootimg builder) (none_ : builder.pageSize = 0) :
    builder.buildV4 bootimg memory = .error (.abort "division by zero") := by
  rcases partLength_eq given.vendorRamdisk with ⟨ramdiskPart, ramdiskLength, -⟩
  rcases partLength_eq given.dtb with ⟨dtbPart, dtbLength, -⟩
  rcases partLength_eq given.bootconfig with ⟨bootconfigPart, bootconfigLength, -⟩
  simp only [VendorBootImageBuilder.buildV4, ramdiskLength, dtbLength, bootconfigLength,
    fits.cmdline, fits.name, decide_true, cfExpect_true, bind, Except.bind, none_, pagePadding,
    UInt32.toNat_zero, if_true]

/-! ## Lengths -/

theorem reader_of_read {stream : OpenReader} {image : VendorBootImage}
    (isImage : read bootimg stream = .ok image) : image.reader = stream := by
  simp only [read, Result.bind_eq_ok] at isImage
  rcases isImage with ⟨memory, -, _, -, isImage⟩
  split at isImage <;> cases isImage <;> rfl

theorem window_of_vendorRamdisk {image : VendorBootImage} {window : OpenReader}
    (isWindow : image.vendorRamdisk bootimg = .ok window) :
    ∃ start, ∃ size : UInt32, window = ReadWindowView.create image.reader start size.toNat := by
  simp only [VendorBootImage.vendorRamdisk, Result.bind_eq_ok] at isWindow
  rcases isWindow with ⟨start, -, isWindow⟩
  exact ⟨_, _, (Except.ok.inj isWindow).symm⟩

theorem window_of_dtb {image : VendorBootImage} {window : OpenReader}
    (isWindow : image.dtb bootimg = .ok window) :
    ∃ start, ∃ size : UInt32, window = ReadWindowView.create image.reader start size.toNat := by
  simp only [VendorBootImage.dtb, Result.bind_eq_ok] at isWindow
  rcases isWindow with ⟨start, -, isWindow⟩
  exact ⟨_, _, (Except.ok.inj isWindow).symm⟩

theorem window_of_bootconfig {image : VendorBootImage} {window : OpenReader}
    (isWindow : image.bootconfig bootimg = .ok (some window)) :
    ∃ start, ∃ size : UInt32, window = ReadWindowView.create image.reader start size.toNat := by
  rw [VendorBootImage.bootconfig] at isWindow
  split at isWindow
  · cases isWindow
  · simp only [Result.bind_eq_ok] at isWindow
    rcases isWindow with ⟨start, -, isWindow⟩
    exact ⟨_, _, (Option.some.inj (Except.ok.inj isWindow)).symm⟩

theorem ReadsBack.lengths (laws : bootimg.Laws) (length : memory.length = bootimg.sizeofV4)
    (given : Given builder vendorRamdisk dtb bootconfig) (fits : TextsFit bootimg builder)
    (readsBack : ReadsBack bootimg memory builder vendorRamdisk dtb bootconfig) :
    builder.pageSize ≠ 0 ∧ vendorRamdisk.length < 4294967296 ∧ dtb.length < 4294967296 ∧
      bootconfig.length < 4294967296 := by
  have somePage : builder.pageSize ≠ 0 := by
    intro none_
    rw [ReadsBack, buildV4_no_pages given fits none_] at readsBack
    rcases readsBack with isError | ⟨_, _, isStream, -⟩
    · exact absurd isError (Result.returnsError_abort _)
    · cases isStream
  have page : 0 < builder.pageSize.toNat :=
    Nat.pos_of_ne_zero fun none_ => somePage (UInt32.toNat_inj.mp none_)
  rcases buildV4_eq laws length given fits page with ⟨members, contents, built, opened, some_, -⟩
  rcases create_ok opened some_ with ⟨stream, created, bounded⟩
  rw [ReadsBack, built, created] at readsBack
  rcases readsBack with isError | ⟨_, image, isStream, isImage, -, -, -, -, -, -, -,
    ⟨ramdiskWindow, isRamdisk, readsRamdisk⟩, ⟨dtbWindow, isDtb, readsDtb⟩,
    bootconfigWindow, isBootconfig, readsBootconfig⟩
  · exact absurd isError (Result.returnsError_ok _)
  · rcases Except.ok.inj isStream with rfl
    rcases reader_of_read isImage with rfl
    rcases window_of_vendorRamdisk isRamdisk with ⟨_, _, rfl⟩
    rcases window_of_dtb isDtb with ⟨_, _, rfl⟩
    rcases window_of_bootconfig isBootconfig with ⟨_, _, rfl⟩
    exact ⟨somePage, ReadWindowView.length_lt bounded readsRamdisk,
      ReadWindowView.length_lt bounded readsDtb, ReadWindowView.length_lt bounded readsBootconfig⟩

/-! ## Where the parts are looked for -/

/-- How far behind the start of a part the reader looks for the next one: as 32-bit numbers the
pages are none if the size and a page do not fit in 32 bits together. -/
def reach (pageSize : Nat) (part : Bytes) : Nat :=
  if part.length + pageSize ≤ 4294967296 then (padded pageSize part).length else 0

theorem reach_le (pageSize : Nat) (part : Bytes) :
    reach pageSize part ≤ (padded pageSize part).length := by
  rw [reach]
  split
  · exact Nat.le_refl _
  · exact Nat.zero_le _

theorem pages32_mul {pageSize size : UInt32} (somePage : 0 < pageSize.toNat) {part : Bytes}
    (isSize : size.toNat = part.length) :
    (pages32 pageSize size * pageSize).toNat = reach pageSize.toNat part := by
  have pageFits := pageSize.toNat_lt
  rw [UInt32.toNat_mul, toNat_pages32 somePage, reach, length_padded somePage, ← isSize]
  by_cases fits : size.toNat + pageSize.toNat ≤ 4294967296
  · rw [if_pos fits, if_pos fits, pages]
    have bound := Nat.div_mul_le_self (size.toNat + pageSize.toNat - 1) pageSize.toNat
    exact Nat.mod_eq_of_lt (by omega)
  · rw [if_neg fits, if_neg fits, Nat.zero_mul]

theorem pages32_zero {pageSize : UInt32} (somePage : 0 < pageSize.toNat) :
    pages32 pageSize 0 = 0 := by
  have pageFits := pageSize.toNat_lt
  rw [← UInt32.toNat_inj, toNat_pages32 somePage, UInt32.toNat_zero, if_pos (by omega), pages,
    Nat.div_eq_of_lt (by omega)]

theorem readsToString_iff {stream : OpenReader} {content : Bytes}
    (valid : (OpenReader.serves content).Valid stream)
    (total : content.length < 9223372036854775808) (part : Bytes) (start : Nat)
    (inside : start + part.length ≤ content.length) :
    ReadsToString OpenReader.reader (ReadWindowView.create stream start part.length) part ↔
      part <+: content.drop start := by
  have reads := ReadWindowView.readsToString valid total inside
  rw [List.prefix_iff_eq_take]
  constructor
  · intro isPart
    exact isPart.unique reads
  · intro isPart
    rw [Bytes.readAt, ← isPart] at reads
    exact reads

theorem prefix_append_iff {part front behind : Bytes} (le : part.length ≤ front.length) :
    part <+: front ++ behind ↔ part <+: front :=
  ⟨fun isPrefix => List.prefix_of_prefix_length_le isPrefix (List.prefix_append _ _) le,
    fun isPrefix => isPrefix.trans (List.prefix_append _ _)⟩

theorem prefix_drop_iff {image header front behind part : Bytes} {pageSize start place : Nat}
    (isImage : image = header ++ (front ++ (padded pageSize part ++ behind)))
    (within : start ≤ front.length) (isPlace : place = header.length + start) :
    part <+: image.drop place ↔ part <+: (front ++ part).drop start := by
  have split : front ++ (padded pageSize part ++ behind) = (front ++ part) ++ (Bytes.zeros
      ((pageSize - part.length % pageSize) % pageSize) ++ behind) := by
    simp [padded]
  have le : start ≤ (front ++ part).length := by
    rw [List.length_append]
    omega
  rw [isPlace, isImage, ← List.drop_drop, List.drop_left, split, List.drop_append_of_le_length le,
    prefix_append_iff]
  rw [List.length_drop, List.length_append]
  omega

theorem windows_read {stream : OpenReader} {size : Nat} {image header : Bytes}
    (valid : (OpenReader.serves image).Valid stream) (total : image.length < 9223372036854775808)
    (isImage : image = header ++
      (padded size vendorRamdisk ++ padded size dtb ++ padded size bootconfig)) :
    ReadsToString OpenReader.reader
        (ReadWindowView.create stream header.length vendorRamdisk.length) vendorRamdisk ∧
      (ReadsToString OpenReader.reader (ReadWindowView.create stream
          (header.length + reach size vendorRamdisk) dtb.length) dtb ↔
        dtb <+: (padded size vendorRamdisk ++ dtb).drop (reach size vendorRamdisk)) ∧
      (ReadsToString OpenReader.reader (ReadWindowView.create stream
          (header.length + reach size vendorRamdisk + reach size dtb) bootconfig.length)
            bootconfig ↔
        bootconfig <+: (padded size vendorRamdisk ++ padded size dtb ++ bootconfig).drop
          (reach size vendorRamdisk + reach size dtb)) := by
  have ramdiskReach := reach_le size vendorRamdisk
  have dtbReach := reach_le size dtb
  have ramdiskLe := le_length_padded size vendorRamdisk
  have dtbLe := le_length_padded size dtb
  have bootconfigLe := le_length_padded size bootconfig
  have totalLength := congrArg List.length isImage
  simp only [List.length_append] at totalLength
  have dtbPlace : dtb <+: image.drop (header.length + reach size vendorRamdisk) ↔
      dtb <+: (padded size vendorRamdisk ++ dtb).drop (reach size vendorRamdisk) :=
    prefix_drop_iff (isImage.trans (by rw [List.append_assoc])) ramdiskReach rfl
  have bootconfigPlace : bootconfig <+: image.drop
        (header.length + reach size vendorRamdisk + reach size dtb) ↔
      bootconfig <+: (padded size vendorRamdisk ++ padded size dtb ++ bootconfig).drop
        (reach size vendorRamdisk + reach size dtb) :=
    prefix_drop_iff (isImage.trans (by rw [List.append_nil]))
      (by rw [List.length_append]; omega) (Nat.add_assoc _ _ _)
  refine ⟨?_, ?_, ?_⟩
  · apply (readsToString_iff valid total _ _ (by omega)).mpr
    rw [isImage, List.drop_left]
    simp only [padded, List.append_assoc]
    exact List.prefix_append _ _
  · exact (readsToString_iff valid total dtb _ (by omega)).trans dtbPlace
  · exact (readsToString_iff valid total bootconfig _ (by omega)).trans bootconfigPlace

theorem read_eq (length : memory.length = bootimg.sizeofV4) (laws : bootimg.Laws)
    {header : VendorBootImgHdrV4} (sized : bootimg.Sized header)
    (isMagic : header.magic = bootimg.vendorBootMagic) (isVersion : header.headerVersion = 4)
    {stream : OpenReader} {pageSize : Nat} {behind : Bytes}
    (valid : (OpenReader.serves (padded pageSize (bootimg.storeV4 memory header) ++ behind)).Valid
      stream) : read bootimg stream = .ok ⟨stream, .v4 header⟩ := by
  have headerLength := laws.length_store length sized
  have inside : 0 + bootimg.sizeofV4 ≤
      (padded pageSize (bootimg.storeV4 memory header) ++ behind).length := by
    rw [padded, List.length_append, List.length_append, headerLength]
    omega
  have isMemory : (padded pageSize (bootimg.storeV4 memory header) ++ behind).readAt 0
      bootimg.sizeofV4 = bootimg.storeV4 memory header := by
    rw [padded, List.append_assoc, ← headerLength]
    exact Bytes.readAt_zero_length _ _
  simp only [read, pReadExact_eq (OpenReader.preads valid) inside, isMemory, bind, Except.bind,
    laws.loadV4_store length sized, isMagic, decide_true, cfExpect_true, isVersion]
  rfl

/-! ## The windows of an image -/

section Windows

variable {stream : OpenReader} {header : VendorBootImgHdrV4} {start : Nat}

theorem vendorRamdiskBegin_v4 (somePage : 0 < header.pageSize.toNat) {written : Bytes}
    (headerLength : written.length = bootimg.sizeofV4) :
    (⟨stream, .v4 header⟩ : VendorBootImage).vendorRamdiskBegin bootimg =
      .ok (padded header.pageSize.toNat written).length := by
  have notZero : header.pageSize ≠ 0 := by
    intro none_
    rw [none_] at somePage
    exact absurd somePage (Nat.lt_irrefl 0)
  rw [vendorRamdiskBegin, VendorBootImage.pageSize, asV3, if_neg notZero, headerSize,
    length_padded somePage, headerLength]

theorem vendorRamdisk_v4
    (isBegin : (⟨stream, .v4 header⟩ : VendorBootImage).vendorRamdiskBegin bootimg = .ok start)
    (isSize : header.vendorRamdiskSize.toNat = vendorRamdisk.length) :
    (⟨stream, .v4 header⟩ : VendorBootImage).vendorRamdisk bootimg =
      .ok (ReadWindowView.create stream start vendorRamdisk.length) := by
  simp only [VendorBootImage.vendorRamdisk, isBegin, bind, Except.bind, asV3, isSize]
  rfl

theorem dtbBegin_v4 (somePage : 0 < header.pageSize.toNat)
    (isBegin : (⟨stream, .v4 header⟩ : VendorBootImage).vendorRamdiskBegin bootimg = .ok start)
    (isSize : header.vendorRamdiskSize.toNat = vendorRamdisk.length) :
    (⟨stream, .v4 header⟩ : VendorBootImage).dtbBegin bootimg =
      .ok (start + reach header.pageSize.toNat vendorRamdisk) := by
  have reached := pages32_mul somePage isSize
  simp only [VendorBootImage.dtbBegin, isBegin, bind, Except.bind, asV3,
    VendorBootImage.pageSize, reached]
  rfl

theorem dtb_v4 (isBegin : (⟨stream, .v4 header⟩ : VendorBootImage).dtbBegin bootimg = .ok start)
    (isSize : header.dtbSize.toNat = dtb.length) :
    (⟨stream, .v4 header⟩ : VendorBootImage).dtb bootimg =
      .ok (ReadWindowView.create stream start dtb.length) := by
  simp only [VendorBootImage.dtb, isBegin, bind, Except.bind, asV3, isSize]
  rfl

theorem bootconfig_v4 (somePage : 0 < header.pageSize.toNat)
    (isBegin : (⟨stream, .v4 header⟩ : VendorBootImage).dtbBegin bootimg = .ok start)
    (isDtbSize : header.dtbSize.toNat = dtb.length) (noTable : header.vendorRamdiskTableSize = 0)
    (isSize : header.bootconfigSize.toNat = bootconfig.length) :
    (⟨stream, .v4 header⟩ : VendorBootImage).bootconfig bootimg =
      .ok (some (ReadWindowView.create stream (start + reach header.pageSize.toNat dtb)
        bootconfig.length)) := by
  have reached := pages32_mul somePage isDtbSize
  simp only [VendorBootImage.bootconfig, isBegin, bind, Except.bind, noTable,
    pages32_zero somePage, UInt32.add_zero, reached, isSize]
  rfl

end Windows

theorem length_image_lt {size : Nat} {header : Bytes} (page : 0 < size) (pageFits : size < 4294967296)
    (headerFits : header.length < 4294967296) (ramdiskFits : vendorRamdisk.length < 4294967296)
    (dtbFits : dtb.length < 4294967296) (bootconfigFits : bootconfig.length < 4294967296) :
    (padded size header ++ (padded size vendorRamdisk ++ padded size dtb ++
      padded size bootconfig)).length < 9223372036854775808 := by
  have ofHeader := length_padded_lt page header
  have ofRamdisk := length_padded_lt page vendorRamdisk
  have ofDtb := length_padded_lt page dtb
  have ofBootconfig := length_padded_lt page bootconfig
  simp only [List.length_append]
  omega

theorem fields_header (laws : bootimg.Laws) (length : memory.length = bootimg.sizeofV4)
    (given : Given builder vendorRamdisk dtb bootconfig) (fits : TextsFit bootimg builder)
    {header : VendorBootImgHdrV4} {vendorRamdiskSize dtbSize bootconfigSize : Nat}
    (isHeader : header = builder.header bootimg memory vendorRamdiskSize dtbSize bootconfigSize)
    {image : VendorBootImage} (isImage : image.header = .v4 header) :
    image.pageSize = builder.pageSize ∧ image.kernelAddr = builder.kernelAddr ∧
      image.ramdiskAddr = builder.ramdiskAddr ∧
      image.kernelCommandLine = .ok builder.kernelCommandLine ∧
      image.tagsAddr = builder.tagsAddr ∧ image.name = .ok builder.name ∧
      image.dtbAddr = builder.dtbAddr := by
  have isV3 : image.asV3 = header.toVendorBootImgHdrV3 := by rw [asV3, isImage]
  have cmdline := cString_snprintf given.cmdlineNoNull
    ((laws.length_cmdline length).symm ▸ fits.cmdline)
  have name := cString_snprintf given.nameNoNull ((laws.length_name length).symm ▸ fits.name)
  rw [VendorBootImage.pageSize, VendorBootImage.kernelAddr, VendorBootImage.ramdiskAddr,
    VendorBootImage.kernelCommandLine, VendorBootImage.tagsAddr, VendorBootImage.name,
    VendorBootImage.dtbAddr, isV3, isHeader]
  exact ⟨rfl, rfl, rfl, cmdline, rfl, name, rfl⟩

theorem readsBack_iff (laws : bootimg.Laws) (length : memory.length = bootimg.sizeofV4)
    (given : Given builder vendorRamdisk dtb bootconfig) (fits : TextsFit bootimg builder)
    (somePage : builder.pageSize ≠ 0) (ramdiskFits : vendorRamdisk.length < 4294967296)
    (dtbFits : dtb.length < 4294967296) (bootconfigFits : bootconfig.length < 4294967296) :
    ReadsBack bootimg memory builder vendorRamdisk dtb bootconfig ↔
      dtb <+: (padded builder.pageSize.toNat vendorRamdisk ++ dtb).drop
          (reach builder.pageSize.toNat vendorRamdisk) ∧
        bootconfig <+: (padded builder.pageSize.toNat vendorRamdisk ++
          padded builder.pageSize.toNat dtb ++ bootconfig).drop
            (reach builder.pageSize.toNat vendorRamdisk + reach builder.pageSize.toNat dtb) := by
  have page : 0 < builder.pageSize.toNat :=
    Nat.pos_of_ne_zero fun none_ => somePage (UInt32.toNat_inj.mp none_)
  rcases buildV4_eq laws length given fits page with ⟨members, contents, built, opened, some_, flat⟩
  have isContent := flat ramdiskFits dtbFits bootconfigFits
  have sized := sized_header laws length given fits vendorRamdisk.length dtb.length
    bootconfig.length
  obtain ⟨header, isHeader⟩ : ∃ header, header = builder.header bootimg memory
    vendorRamdisk.length dtb.length bootconfig.length := ⟨_, rfl⟩
  rw [← isHeader] at isContent sized
  have headerLength := laws.length_store length sized
  have total : contents.flatten.length < 9223372036854775808 := by
    rw [isContent]
    exact length_image_lt page builder.pageSize.toNat_lt (headerLength ▸ laws.small) ramdiskFits
      dtbFits bootconfigFits
  rcases create_opened opened some_ (by omega) with ⟨offToReader, preads, created⟩
  rcases OpenReader.valid_ofLength preads rfl total with ⟨valid, -⟩
  generalize OpenReader.fakeSeeker (.ofLength (pread offToReader) contents.flatten.length) = stream
    at created valid
  -- the header is read, and the windows are made from it
  have isImage : read bootimg stream = .ok ⟨stream, .v4 header⟩ :=
    read_eq length laws sized (by rw [isHeader]; rfl) (by rw [isHeader]; rfl) (isContent ▸ valid)
  have fields := fields_header laws length given fits isHeader
    (show (⟨stream, .v4 header⟩ : VendorBootImage).header = .v4 header from rfl)
  have headerPage : header.pageSize = builder.pageSize := fields.1
  have ramdiskSize : header.vendorRamdiskSize.toNat = vendorRamdisk.length := by
    rw [isHeader]
    exact UInt32.toNat_ofNat_of_lt ramdiskFits
  have dtbSize : header.dtbSize.toNat = dtb.length := by
    rw [isHeader]
    exact UInt32.toNat_ofNat_of_lt dtbFits
  have bootconfigSize : header.bootconfigSize.toNat = bootconfig.length := by
    rw [isHeader]
    exact UInt32.toNat_ofNat_of_lt bootconfigFits
  have noTable : header.vendorRamdiskTableSize = 0 := by
    rw [isHeader]
    rfl
  rw [← headerPage] at page isContent ⊢
  have isBegin := @vendorRamdiskBegin_v4 bootimg stream header page _ headerLength
  have isRamdisk := vendorRamdisk_v4 isBegin ramdiskSize
  have isDtbBegin := dtbBegin_v4 page isBegin ramdiskSize
  have isDtb := dtb_v4 isDtbBegin dtbSize
  have isBootconfig := bootconfig_v4 page isDtbBegin dtbSize noTable bootconfigSize
  -- and each window is compared with what stands at its place
  rcases windows_read valid total isContent with ⟨readsRamdisk, readsDtb, readsBootconfig⟩
  rw [← readsDtb, ← readsBootconfig, ReadsBack, built, created]
  constructor
  · rintro (isError | ⟨_, image, isStream, isRead, -, -, -, -, -, -, -, -, ⟨dtbWindow, isWindow,
      reads⟩, bootconfigWindow, isBootconfigWindow, readsWindow⟩)
    · exact absurd isError (Result.returnsError_ok _)
    · rcases Except.ok.inj isStream with rfl
      rcases Except.ok.inj (isImage.symm.trans isRead) with rfl
      rcases Except.ok.inj (isDtb.symm.trans isWindow) with rfl
      rcases Option.some.inj (Except.ok.inj (isBootconfig.symm.trans isBootconfigWindow)) with rfl
      exact ⟨reads, readsWindow⟩
  · rintro ⟨reads, readsWindow⟩
    rcases fields with ⟨pageSize, kernelAddr, ramdiskAddr, cmdline, tagsAddr, name, dtbAddr⟩
    exact .inr ⟨stream, _, rfl, isImage, pageSize, kernelAddr, ramdiskAddr, cmdline, tagsAddr, name,
      dtbAddr, ⟨_, isRamdisk, readsRamdisk⟩, ⟨_, isDtb, reads⟩, _, isBootconfig, readsWindow⟩

theorem vendor_boot_image_reads_back_iff (laws : bootimg.Laws)
    (length : memory.length = bootimg.sizeofV4)
    (given : Given builder vendorRamdisk dtb bootconfig) :
    ReadsBack bootimg memory builder vendorRamdisk dtb bootconfig ↔
      bootimg.cmdlineSize ≤ builder.kernelCommandLine.length ∨
      bootimg.nameSize ≤ builder.name.length ∨
      builder.pageSize ≠ 0 ∧ vendorRamdisk.length < 4294967296 ∧ dtb.length < 4294967296 ∧
        bootconfig.length < 4294967296 ∧
        dtb <+: (padded builder.pageSize.toNat vendorRamdisk ++ dtb).drop
          (reach builder.pageSize.toNat vendorRamdisk) ∧
        bootconfig <+: (padded builder.pageSize.toNat vendorRamdisk ++
          padded builder.pageSize.toNat dtb ++ bootconfig).drop
            (reach builder.pageSize.toNat vendorRamdisk + reach builder.pageSize.toNat dtb) := by
  by_cases fits : TextsFit bootimg builder
  · rw [or_iff_right (Nat.not_le.mpr fits.cmdline), or_iff_right (Nat.not_le.mpr fits.name)]
    constructor
    · intro readsBack
      rcases readsBack.lengths laws length given fits with
        ⟨somePage, ramdiskFits, dtbFits, bootconfigFits⟩
      exact ⟨somePage, ramdiskFits, dtbFits, bootconfigFits, (readsBack_iff laws length given fits
        somePage ramdiskFits dtbFits bootconfigFits).mp readsBack⟩
    · rintro ⟨somePage, ramdiskFits, dtbFits, bootconfigFits, found⟩
      exact (readsBack_iff laws length given fits somePage ramdiskFits dtbFits bootconfigFits).mpr
        found
  · refine iff_of_true (.inl (buildV4_long given fits)) ?_
    by_cases cmdline : builder.kernelCommandLine.length < bootimg.cmdlineSize
    · exact .inr (.inl (Nat.le_of_not_lt fun name => fits ⟨cmdline, name⟩))
    · exact .inl (Nat.le_of_not_lt cmdline)

/-! ## The layout of `bootimg.h` -/

open LittleEndian

def vendorFields (header : VendorBootImgHdrV4) : List Bytes :=
  [header.magic, encode 4 header.headerVersion.toNat, encode 4 header.pageSize.toNat,
    encode 4 header.kernelAddr.toNat, encode 4 header.ramdiskAddr.toNat,
    encode 4 header.vendorRamdiskSize.toNat, header.cmdline, encode 4 header.tagsAddr.toNat,
    header.name, encode 4 header.headerSize.toNat, encode 4 header.dtbSize.toNat,
    encode 8 header.dtbAddr.toNat, encode 4 header.vendorRamdiskTableSize.toNat,
    encode 4 header.vendorRamdiskTableEntryNum.toNat,
    encode 4 header.vendorRamdiskTableEntrySize.toNat, encode 4 header.bootconfigSize.toNat]

def vendorBootimgHeaders : VendorBootimg where
  vendorBootMagic := "VNDRBOOT".toUTF8.data.toList
  cmdlineSize := 2048
  nameSize := 16
  sizeofV3 := 2112
  sizeofV4 := 2128
  sizeofTableEntryV4 := 108
  storeV4 _ header := (vendorFields header).flatten
  loadV4 memory :=
    { magic := memory.readAt 0 8
      headerVersion := wordAt memory 8
      pageSize := wordAt memory 12
      kernelAddr := wordAt memory 16
      ramdiskAddr := wordAt memory 20
      vendorRamdiskSize := wordAt memory 24
      cmdline := memory.readAt 28 2048
      tagsAddr := wordAt memory 2076
      name := memory.readAt 2080 16
      headerSize := wordAt memory 2096
      dtbSize := wordAt memory 2100
      dtbAddr := UInt64.ofNat (decode (memory.readAt 2104 8))
      vendorRamdiskTableSize := wordAt memory 2112
      vendorRamdiskTableEntryNum := wordAt memory 2116
      vendorRamdiskTableEntrySize := wordAt memory 2120
      bootconfigSize := wordAt memory 2124 }

theorem vendorBootimgHeaders_laws : vendorBootimgHeaders.Laws := by
  refine ⟨by decide, ?_, ?_, ?_, ?_⟩
  · intro memory length
    have length : memory.length = 2128 := length
    change (memory.readAt 28 2048).length = 2048
    rw [Bytes.readAt_length, length]
    rfl
  · intro memory length
    have length : memory.length = 2128 := length
    change (memory.readAt 2080 16).length = 16
    rw [Bytes.readAt_length, length]
    rfl
  · intro memory header length sized
    have magic : header.magic.length = 8 := sized.magic
    have cmdline : header.cmdline.length = 2048 := sized.cmdline
    have name : header.name.length = 16 := sized.name
    simp [vendorBootimgHeaders, vendorFields, magic, cmdline, name]
  · intro memory header length sized
    have magic : header.magic.length = 8 := sized.magic
    have cmdline : header.cmdline.length = 2048 := sized.cmdline
    have name : header.name.length = 16 := sized.name
    have dtbAddr : UInt64.ofNat (decode (Bytes.readAt (vendorFields header).flatten 2104 8)) =
        header.dtbAddr := by
      rw [Bytes.readAt_field 11 rfl (by simp [vendorFields, magic, cmdline, name])
        (length_encode 8 _), decode_encode_uint64, UInt64.ofNat_toNat]
    have fields : vendorBootimgHeaders.loadV4 (vendorFields header).flatten =
        ⟨⟨header.magic, header.headerVersion, header.pageSize, header.kernelAddr,
          header.ramdiskAddr, header.vendorRamdiskSize, header.cmdline, header.tagsAddr, header.name,
          header.headerSize, header.dtbSize, header.dtbAddr⟩, header.vendorRamdiskTableSize,
          header.vendorRamdiskTableEntryNum, header.vendorRamdiskTableEntrySize,
          header.bootconfigSize⟩ := by
      simp only [vendorBootimgHeaders]
      congr
      · exact Bytes.readAt_field 0 rfl rfl magic
      · exact wordAt_field 1 rfl (by simp [vendorFields, magic])
      · exact wordAt_field 2 rfl (by simp [vendorFields, magic])
      · exact wordAt_field 3 rfl (by simp [vendorFields, magic])
      · exact wordAt_field 4 rfl (by simp [vendorFields, magic])
      · exact wordAt_field 5 rfl (by simp [vendorFields, magic])
      · exact Bytes.readAt_field 6 rfl (by simp [vendorFields, magic]) cmdline
      · exact wordAt_field 7 rfl (by simp [vendorFields, magic, cmdline])
      · exact Bytes.readAt_field 8 rfl (by simp [vendorFields, magic, cmdline]) name
      · exact wordAt_field 9 rfl (by simp [vendorFields, magic, cmdline, name])
      · exact wordAt_field 10 rfl (by simp [vendorFields, magic, cmdline, name])
      · exact wordAt_field 12 rfl (by simp [vendorFields, magic, cmdline, name])
      · exact wordAt_field 13 rfl (by simp [vendorFields, magic, cmdline, name])
      · exact wordAt_field 14 rfl (by simp [vendorFields, magic, cmdline, name])
      · exact wordAt_field 15 rfl (by simp [vendorFields, magic, cmdline, name])
    exact fields

def smallVendorBoot : VendorBootImageBuilder where
  vendorRamdisk := some (.inMemory (.ofData [1, 2, 3]))
  name := [97]
  bootconfig := some (.inMemory (.ofData [4]))

theorem vendor_boot_image_reads_back_small :
    ReadsBack vendorBootimgHeaders (Bytes.zeros 2128) smallVendorBoot [1, 2, 3] [] [4] :=
  have given : Given smallVendorBoot [1, 2, 3] [] [4] :=
    ⟨contains_data _, rfl, contains_data _, by decide, by decide⟩
  (vendor_boot_image_reads_back_iff vendorBootimgHeaders_laws (Bytes.length_zeros _) given).mpr
    (.inr (.inr ⟨by decide, by decide, by decide, by decide, List.nil_prefix, by
      have reached : reach smallVendorBoot.pageSize.toNat [1, 2, 3] +
          reach smallVendorBoot.pageSize.toNat [] =
            (padded smallVendorBoot.pageSize.toNat [1, 2, 3] ++
              padded smallVendorBoot.pageSize.toNat []).length := by
        rw [List.length_append, reach, reach, if_pos (by decide), if_pos (by decide)]
      simp only [reached, List.drop_left, List.prefix_refl]⟩))

/-- Nothing but a page size of 0. -/
theorem no_page_size_aborts :
    ¬ ReadsBack vendorBootimgHeaders (Bytes.zeros 2128) { pageSize := 0 } [] [] [] := by
  intro readsBack
  have given : Given { pageSize := 0 } [] [] [] := ⟨rfl, rfl, rfl, by simp, by simp⟩
  exact (readsBack.lengths vendorBootimgHeaders_laws (Bytes.length_zeros _) given
    ⟨by decide, by decide⟩).1 rfl

end VendorBootImage

end Cuttlefish.AssembleCvd
