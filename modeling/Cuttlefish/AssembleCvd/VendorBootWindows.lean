import Cuttlefish.AssembleCvd.VendorBootImageRoundTrip

/-! # Where the sections of a vendor boot image are found

The begins that `VendorBootImage` computes in 32 bits against those of the boot image
format, for any header. -/

namespace Cuttlefish.AssembleCvd

open Io

structure WindowBegins where
  vendorRamdisk : Nat
  dtb : Nat
  bootconfig : Option Nat
  deriving DecidableEq

namespace VendorBootImage

section

variable (bootimg : VendorBootimg) (image : VendorBootImage)

def bootconfigBegin : Result (Option Nat) :=
  match image.header with
  | .v3 _ => .ok none
  | .v4 header => do
      let dtbBegin ← image.dtbBegin bootimg
      let dtbPages := pages32 header.pageSize header.dtbSize
      let tablePages := pages32 header.pageSize header.vendorRamdiskTableSize
      return some (dtbBegin + ((dtbPages + tablePages) * header.pageSize).toNat)

def windowBegins : Result WindowBegins := do
  let vendorRamdisk ← image.vendorRamdiskBegin bootimg
  let dtb ← image.dtbBegin bootimg
  let bootconfig ← image.bootconfigBegin bootimg
  return ⟨vendorRamdisk, dtb, bootconfig⟩

/-- The windows that are returned begin there. -/
structure BeginAt (begins : WindowBegins) : Prop where
  vendorRamdisk : image.vendorRamdisk bootimg = .ok
    (ReadWindowView.create image.reader begins.vendorRamdisk image.asV3.vendorRamdiskSize.toNat)
  dtb : image.dtb bootimg =
    .ok (ReadWindowView.create image.reader begins.dtb image.asV3.dtbSize.toNat)
  bootconfig : image.bootconfig bootimg =
    match image.header with
    | .v3 _ => .ok none
    | .v4 header => .ok (begins.bootconfig.map fun start =>
        ReadWindowView.create image.reader start header.bootconfigSize.toNat)

def roundUp (pageSize : UInt32) (size : Nat) : Nat := pages pageSize.toNat size * pageSize.toNat

/-- The places of the sections in the image format, each on pages of its own. -/
def sectionBegins : WindowBegins where
  vendorRamdisk := roundUp image.pageSize (image.headerSize bootimg)
  dtb := roundUp image.pageSize (image.headerSize bootimg) +
    roundUp image.pageSize image.asV3.vendorRamdiskSize.toNat
  bootconfig :=
    match image.header with
    | .v3 _ => none
    | .v4 header => some (roundUp image.pageSize (image.headerSize bootimg) +
        roundUp image.pageSize image.asV3.vendorRamdiskSize.toNat +
        roundUp image.pageSize header.dtbSize.toNat +
        roundUp image.pageSize header.vendorRamdiskTableSize.toNat)

def RoundsUp (pageSize size : UInt32) : Prop := size.toNat + pageSize.toNat ≤ 4294967296

/-- There are pages, and the sizes of the sections are rounded up in 32 bits. -/
def SectionsFit : Prop :=
  image.pageSize ≠ 0 ∧ RoundsUp image.pageSize image.asV3.vendorRamdiskSize ∧
    match image.header with
    | .v3 _ => True
    | .v4 header =>
        RoundsUp image.pageSize header.dtbSize ∧
          RoundsUp image.pageSize header.vendorRamdiskTableSize ∧
          roundUp image.pageSize header.dtbSize.toNat +
            roundUp image.pageSize header.vendorRamdiskTableSize.toNat < 4294967296

end

/-! ## Numbers of pages in 32 bits -/

section

variable {pageSize : UInt32}

theorem le_roundUp (somePage : 0 < pageSize.toNat) (size : Nat) :
    size ≤ roundUp pageSize size ∧ roundUp pageSize size < size + pageSize.toNat := by
  have padding := Nat.mod_lt (pageSize.toNat - size % pageSize.toNat) somePage
  rw [roundUp, pages_mul somePage]
  omega

theorem pages32_mul_toNat (somePage : 0 < pageSize.toNat) (size : UInt32) :
    (pages32 pageSize size).toNat * pageSize.toNat =
      if size.toNat + pageSize.toNat ≤ 4294967296 then roundUp pageSize size.toNat else 0 := by
  have sizeFits := size.toNat_lt
  have pageFits := pageSize.toNat_lt
  rw [toNat_pages32 somePage]
  split
  next fits => rw [roundUp]
  next wraps => exact Nat.zero_mul _

theorem pages32_mul_eq_iff (somePage : 0 < pageSize.toNat) (size : UInt32) :
    (pages32 pageSize size * pageSize).toNat = roundUp pageSize size.toNat ↔
      RoundsUp pageSize size := by
  have bounds := le_roundUp somePage size.toNat
  have pageFits := pageSize.toNat_lt
  rw [UInt32.toNat_mul, pages32_mul_toNat somePage, RoundsUp]
  split
  next fits => omega
  next wraps => omega

theorem two_pages32_mul_eq_iff (somePage : 0 < pageSize.toNat) (first second : UInt32) :
    ((pages32 pageSize first + pages32 pageSize second) * pageSize).toNat =
        roundUp pageSize first.toNat + roundUp pageSize second.toNat ↔
      RoundsUp pageSize first ∧ RoundsUp pageSize second ∧
        roundUp pageSize first.toNat + roundUp pageSize second.toNat < 4294967296 := by
  have firstBounds := le_roundUp somePage first.toNat
  have secondBounds := le_roundUp somePage second.toNat
  have pageFits := pageSize.toNat_lt
  rw [UInt32.toNat_mul, UInt32.toNat_add, Nat.mod_mul_mod, Nat.add_mul,
    pages32_mul_toNat somePage, pages32_mul_toNat somePage, RoundsUp, RoundsUp]
  split <;> split <;> omega

end

/-! ## The begins of the windows -/

def roundedBegins (bootimg : VendorBootimg) (image : VendorBootImage) : WindowBegins where
  vendorRamdisk := roundUp image.pageSize (image.headerSize bootimg)
  dtb := roundUp image.pageSize (image.headerSize bootimg) +
    (pages32 image.pageSize image.asV3.vendorRamdiskSize * image.pageSize).toNat
  bootconfig :=
    match image.header with
    | .v3 _ => none
    | .v4 header => some (roundUp image.pageSize (image.headerSize bootimg) +
        (pages32 image.pageSize image.asV3.vendorRamdiskSize * image.pageSize).toNat +
        ((pages32 image.pageSize header.dtbSize +
          pages32 image.pageSize header.vendorRamdiskTableSize) * image.pageSize).toNat)

section

variable {bootimg : VendorBootimg} {image : VendorBootImage}

theorem vendorRamdiskBegin_eq (somePage : image.pageSize ≠ 0) :
    image.vendorRamdiskBegin bootimg =
      .ok (roundUp image.pageSize (image.headerSize bootimg)) := by
  rw [vendorRamdiskBegin, if_neg somePage, roundUp]

theorem dtbBegin_eq (somePage : image.pageSize ≠ 0) :
    image.dtbBegin bootimg =
      .ok (roundUp image.pageSize (image.headerSize bootimg) +
        (pages32 image.pageSize image.asV3.vendorRamdiskSize * image.pageSize).toNat) := by
  rw [dtbBegin, vendorRamdiskBegin_eq somePage]
  rfl

theorem windowBegins_eq (somePage : image.pageSize ≠ 0) :
    image.windowBegins bootimg = .ok (image.roundedBegins bootimg) := by
  rw [windowBegins, bootconfigBegin, vendorRamdiskBegin_eq somePage, dtbBegin_eq somePage]
  rcases image with ⟨reader, header⟩
  cases header with
  | v3 header => rfl
  | v4 header => rfl

theorem windowBegins_no_page (noPage : image.pageSize = 0) :
    image.windowBegins bootimg = .error (.abort "division by zero") := by
  rw [windowBegins, vendorRamdiskBegin, if_pos noPage]
  rfl

theorem beginAt_of_windowBegins {begins : WindowBegins}
    (isBegins : image.windowBegins bootimg = .ok begins) : image.BeginAt bootimg begins := by
  rw [windowBegins] at isBegins
  simp only [Result.bind_eq_ok] at isBegins
  rcases isBegins with ⟨start, isStart, dtbStart, isDtb, bootconfigStart, isBootconfig, isBegins⟩
  cases isBegins
  constructor
  · rw [VendorBootImage.vendorRamdisk, isStart]
    rfl
  · rw [VendorBootImage.dtb, isDtb]
    rfl
  · cases isHeader : image.header with
    | v3 header => rw [VendorBootImage.bootconfig, isHeader]
    | v4 header =>
        rw [bootconfigBegin, isHeader, isDtb] at isBootconfig
        cases isBootconfig
        rw [VendorBootImage.bootconfig, isHeader, isDtb]
        rfl

theorem roundedBegins_eq_iff (isPage : image.pageSize ≠ 0) :
    image.roundedBegins bootimg = image.sectionBegins bootimg ↔ image.SectionsFit := by
  have somePage : 0 < image.pageSize.toNat := by
    apply Nat.pos_of_ne_zero
    intro isZero
    exact isPage (UInt32.toNat_inj.mp isZero)
  have ramdisk := pages32_mul_eq_iff somePage image.asV3.vendorRamdiskSize
  rcases image with ⟨reader, header⟩
  cases header with
  | v3 header =>
      simpa [roundedBegins, sectionBegins, SectionsFit, isPage] using ramdisk
  | v4 header =>
      have behind := two_pages32_mul_eq_iff somePage header.dtbSize header.vendorRamdiskTableSize
      simp only [roundedBegins, sectionBegins, SectionsFit, WindowBegins.mk.injEq,
        Option.some.injEq, ← behind, ← ramdisk]
      constructor
      · rintro ⟨-, dtb, bootconfig⟩
        have sameRamdisk := Nat.add_left_cancel dtb
        rw [sameRamdisk, Nat.add_assoc (_ + _)] at bootconfig
        exact ⟨isPage, sameRamdisk, Nat.add_left_cancel bootconfig⟩
      · rintro ⟨-, sameRamdisk, sameBehind⟩
        rw [sameRamdisk, sameBehind, ← Nat.add_assoc]
        exact ⟨trivial, rfl, rfl⟩

theorem windowBegins_eq_iff :
    image.windowBegins bootimg = .ok (image.sectionBegins bootimg) ↔ image.SectionsFit := by
  by_cases isPage : image.pageSize = 0
  · rw [windowBegins_no_page isPage]
    constructor
    · intro isOk
      cases isOk
    · intro fits
      exact absurd isPage fits.1
  · rw [windowBegins_eq isPage, Except.ok.injEq]
    exact roundedBegins_eq_iff isPage

end

/-- The windows begin at the sections of the format exactly if there are pages and
nothing wraps in 32 bits. -/
theorem sections_located_iff (bootimg : VendorBootimg) (image : VendorBootImage) :
    (∃ begins, image.windowBegins bootimg = .ok begins ∧ image.BeginAt bootimg begins ∧
        begins = image.sectionBegins bootimg) ↔
      image.SectionsFit := by
  rw [← @windowBegins_eq_iff bootimg image]
  constructor
  · rintro ⟨begins, isBegins, -, isSections⟩
    rw [isBegins, isSections]
  · intro isBegins
    exact ⟨_, isBegins, beginAt_of_windowBegins isBegins, rfl⟩

def vendorBootHeader (pageSize vendorRamdiskSize : UInt32) : VendorBootImgHdrV4 where
  magic := vendorBootimgHeaders.vendorBootMagic
  headerVersion := 4
  pageSize := pageSize
  kernelAddr := 0
  ramdiskAddr := 0
  vendorRamdiskSize := vendorRamdiskSize
  cmdline := Bytes.zeros 2048
  tagsAddr := 0
  name := Bytes.zeros 16
  headerSize := 2128
  dtbSize := 0
  dtbAddr := 0
  vendorRamdiskTableSize := 0
  vendorRamdiskTableEntryNum := 0
  vendorRamdiskTableEntrySize := 108
  bootconfigSize := 0

theorem sized_vendorBootHeader (pageSize vendorRamdiskSize : UInt32) :
    vendorBootimgHeaders.Sized (vendorBootHeader pageSize vendorRamdiskSize) where
  magic := rfl
  cmdline := Bytes.length_zeros 2048
  name := Bytes.length_zeros 16

theorem read_vendorBootHeader (pageSize vendorRamdiskSize : UInt32) :
    ∃ reader, read vendorBootimgHeaders reader =
      .ok ⟨reader, .v4 (vendorBootHeader pageSize vendorRamdiskSize)⟩ :=
  ⟨_, @read_eq vendorBootimgHeaders (Bytes.zeros 2128) (Bytes.length_zeros 2128)
    vendorBootimgHeaders_laws _ (sized_vendorBootHeader pageSize vendorRamdiskSize) rfl rfl _ 1 []
    (contains_data _)⟩

theorem windowBegins_vendorBootHeader (reader : OpenReader) :
    windowBegins vendorBootimgHeaders ⟨reader, .v4 (vendorBootHeader 4096 4294963201)⟩ =
      .ok ⟨4096, 4096, some 4096⟩ := by
  have notZero : (4096 : UInt32) ≠ 0 := by decide
  have isPage : pageSize ⟨reader, .v4 (vendorBootHeader 4096 4294963201)⟩ ≠ 0 := notZero
  have header : roundUp 4096 2128 = 4096 := by decide
  have ramdisk : (pages32 4096 4294963201 * 4096).toNat = 0 := by decide
  have behind : ((pages32 4096 0 + pages32 4096 0) * 4096).toNat = 0 := by decide
  rw [windowBegins_eq isPage]
  change Except.ok (WindowBegins.mk (roundUp 4096 2128)
    (roundUp 4096 2128 + (pages32 4096 4294963201 * 4096).toNat)
    (some (roundUp 4096 2128 + (pages32 4096 4294963201 * 4096).toNat +
      ((pages32 4096 0 + pages32 4096 0) * 4096).toNat))) = _
  rw [header, ramdisk, behind]

theorem sectionBegins_vendorBootHeader (reader : OpenReader) :
    sectionBegins vendorBootimgHeaders ⟨reader, .v4 (vendorBootHeader 4096 4294963201)⟩ =
      ⟨4096, 4294971392, some 4294971392⟩ := by
  have header : roundUp 4096 2128 = 4096 := by decide
  have ramdisk : roundUp 4096 (4294963201 : UInt32).toNat = 4294967296 := by decide
  have none_ : roundUp 4096 (0 : UInt32).toNat = 0 := by decide
  change WindowBegins.mk (roundUp 4096 2128)
    (roundUp 4096 2128 + roundUp 4096 (4294963201 : UInt32).toNat)
    (some (roundUp 4096 2128 + roundUp 4096 (4294963201 : UInt32).toNat +
      roundUp 4096 (0 : UInt32).toNat + roundUp 4096 (0 : UInt32).toNat)) = _
  rw [header, ramdisk, none_]

/-- A ramdisk whose size rounds up to 4 GiB leaves the device tree where it begins
itself, and without a page size there is a division by zero. -/
theorem sections_not_located :
    (∃ reader image, read vendorBootimgHeaders reader = .ok image ∧
        image.windowBegins vendorBootimgHeaders = .ok ⟨4096, 4096, some 4096⟩ ∧
        image.sectionBegins vendorBootimgHeaders = ⟨4096, 4294971392, some 4294971392⟩) ∧
      ∃ reader image, read vendorBootimgHeaders reader = .ok image ∧
        image.windowBegins vendorBootimgHeaders = .error (.abort "division by zero") := by
  constructor
  · rcases read_vendorBootHeader 4096 4294963201 with ⟨reader, isImage⟩
    exact ⟨reader, _, isImage, windowBegins_vendorBootHeader reader,
      sectionBegins_vendorBootHeader reader⟩
  · rcases read_vendorBootHeader 0 0 with ⟨reader, isImage⟩
    exact ⟨reader, _, isImage, windowBegins_no_page rfl⟩

end VendorBootImage

end Cuttlefish.AssembleCvd
