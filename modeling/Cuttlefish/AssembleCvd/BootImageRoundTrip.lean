import Cuttlefish.AssembleCvd.BootImage
import Cuttlefish.Foundation.LittleEndian

/-! # Boot images are read as they were built -/

namespace Cuttlefish.AssembleCvd

open Io ConcatReaderSeeker

namespace BootImage

variable {bootimg : Bootimg}

/-- Building fails, or what is built is read as what was given. -/
def ReadsBack (bootimg : Bootimg) (memory : Bytes) (builder : BootImageBuilder)
    (kernel ramdisk signature : Bytes) : Prop :=
  (builder.buildV4 bootimg memory).ReturnsError ∨
    ∃ stream image, builder.buildV4 bootimg memory = .ok stream ∧
      read bootimg stream = .ok image ∧ image.osVersion = builder.osVersion ∧
      image.kernelCommandLine = .ok builder.kernelCommandLine ∧
      ReadsToString OpenReader.reader image.kernel kernel ∧
      (∃ window, image.ramdisk = .ok window ∧ ReadsToString OpenReader.reader window ramdisk) ∧
      ∃ window, image.signature = .ok (some window) ∧
        ReadsToString OpenReader.reader window signature

/-- The parts that a builder was given. -/
structure Given (builder : BootImageBuilder) (kernel ramdisk signature : Bytes) : Prop where
  kernel : Contains builder.kernel kernel
  ramdisk : Contains builder.ramdisk ramdisk
  signature : Contains builder.signature signature
  noNull : 0 ∉ builder.kernelCommandLine

variable {memory : Bytes} {builder : BootImageBuilder} {kernel ramdisk signature : Bytes}

theorem sized_header (laws : bootimg.Laws) (length : memory.length = bootimg.sizeofV4)
    (given : Given builder kernel ramdisk signature)
    (fits : builder.kernelCommandLine.length < bootimg.cmdlineSize)
    (kernelSize ramdiskSize signatureSize : Nat) :
    bootimg.Sized (builder.header bootimg memory kernelSize ramdiskSize signatureSize) where
  magic := rfl
  cmdline := by
    have array := laws.length_cmdline length
    exact (length_snprintf given.noNull (array.symm ▸ fits)).trans array

theorem buildV4_eq (laws : bootimg.Laws) (length : memory.length = bootimg.sizeofV4)
    (given : Given builder kernel ramdisk signature)
    (fits : builder.kernelCommandLine.length < bootimg.cmdlineSize) :
    ∃ members contents, builder.buildV4 bootimg memory = create members ∧
      Opened members contents ∧ members ≠ [] ∧
      (kernel.length < 4294967296 → ramdisk.length < 4294967296 → signature.length < 4294967296 →
        contents.flatten = padded 4096 (bootimg.storeV4 memory (builder.header bootimg memory
          kernel.length ramdisk.length signature.length)) ++ padded 4096 kernel ++
            padded 4096 ramdisk ++ padded 4096 signature) := by
  rcases partLength_eq given.kernel with ⟨kernelPart, kernelLength, containsKernel⟩
  rcases partLength_eq given.ramdisk with ⟨ramdiskPart, ramdiskLength, containsRamdisk⟩
  rcases partLength_eq given.signature with ⟨signaturePart, signatureLength, containsSignature⟩
  have page : 0 < 4096 := by decide
  rcases partMembers_opened containsKernel page (UInt32.ofNat kernel.length).toNat with
    ⟨kernelMembers, kernelContents, isKernel, openedKernel, flatKernel⟩
  rcases partMembers_opened containsRamdisk page (UInt32.ofNat ramdisk.length).toNat with
    ⟨ramdiskMembers, ramdiskContents, isRamdisk, openedRamdisk, flatRamdisk⟩
  rcases partMembers_opened containsSignature page (UInt32.ofNat signature.length).toNat with
    ⟨signatureMembers, signatureContents, isSignature, openedSignature, flatSignature⟩
  have headerLength := laws.length_store length
    (sized_header laws length given fits kernel.length ramdisk.length signature.length)
  refine ⟨_, _, ?_, (((opened_data (bootimg.storeV4 memory (builder.header bootimg memory
    kernel.length ramdisk.length signature.length))).append (opened_data (Bytes.zeros
      ((4096 - bootimg.sizeofV4 % 4096) % 4096)))).append openedKernel).append openedRamdisk
        |>.append openedSignature, by simp, fun kernelFits ramdiskFits signatureFits => ?_⟩
  · have headerPadding := pagePadding_eq page bootimg.sizeofV4
    simp only [BootImageBuilder.buildV4, kernelLength, ramdiskLength, signatureLength, fits,
      decide_true, cfExpect_true, bind, Except.bind, BootImageBuilder.pagePadding,
      BootImageBuilder.kPageSize, BootImageBuilder.header, headerPadding, isKernel, isRamdisk,
      isSignature]
    rfl
  · have exact_ : ∀ {size : Nat}, size < 4294967296 → (UInt32.ofNat size).toNat = size :=
      fun small => UInt32.toNat_ofNat_of_lt small
    simp only [List.flatten_append, flatKernel (exact_ kernelFits),
      flatRamdisk (exact_ ramdiskFits), flatSignature (exact_ signatureFits)]
    simp [padded, headerLength]

theorem reader_of_read {stream : OpenReader} {image : BootImage}
    (isImage : read bootimg stream = .ok image) : image.reader = stream := by
  simp only [read, Result.bind_eq_ok] at isImage
  rcases isImage with ⟨v2, -, _, -, isImage⟩
  split at isImage <;> cases isImage <;> rfl

theorem window_of_ramdisk {image : BootImage} {window : OpenReader}
    (isRamdisk : image.ramdisk = .ok window) :
    ∃ start, window = ReadWindowView.create image.reader start image.ramdiskSize.toNat := by
  simp only [BootImage.ramdisk, Result.bind_eq_ok] at isRamdisk
  rcases isRamdisk with ⟨kernelPages, -, isWindow⟩
  exact ⟨_, (Except.ok.inj isWindow).symm⟩

theorem window_of_signature {image : BootImage} {window : OpenReader}
    (isSignature : image.signature = .ok (some window)) :
    ∃ start, ∃ size : UInt32, window = ReadWindowView.create image.reader start size.toNat := by
  rw [BootImage.signature] at isSignature
  split at isSignature
  · simp only [Result.bind_eq_ok] at isSignature
    rcases isSignature with ⟨kernelPages, -, ramdiskPages, -, isWindow⟩
    exact ⟨_, _, (Option.some.inj (Except.ok.inj isWindow)).symm⟩
  · cases isSignature

theorem ReadsBack.lengths (laws : bootimg.Laws) (length : memory.length = bootimg.sizeofV4)
    (given : Given builder kernel ramdisk signature)
    (fits : builder.kernelCommandLine.length < bootimg.cmdlineSize)
    (readsBack : ReadsBack bootimg memory builder kernel ramdisk signature) :
    kernel.length < 4294967296 ∧ ramdisk.length < 4294967296 ∧ signature.length < 4294967296 := by
  rcases buildV4_eq laws length given fits with ⟨members, contents, built, opened, some_, -⟩
  rcases create_ok opened some_ with ⟨stream, created, bounded⟩
  rw [ReadsBack, built, created] at readsBack
  rcases readsBack with isError | ⟨_, image, isStream, isImage, -, -, isKernel,
    ⟨ramdiskWindow, isRamdisk, readsRamdisk⟩, signatureWindow, isSignature, readsSignature⟩
  · exact absurd isError (Result.returnsError_ok _)
  · rcases Except.ok.inj isStream with rfl
    rcases reader_of_read isImage with rfl
    rcases window_of_ramdisk isRamdisk with ⟨ramdiskStart, rfl⟩
    rcases window_of_signature isSignature with ⟨signatureStart, signatureSize, rfl⟩
    exact ⟨ReadWindowView.length_lt bounded isKernel, ReadWindowView.length_lt bounded readsRamdisk,
      ReadWindowView.length_lt bounded readsSignature⟩

theorem read_eq (laws : bootimg.Laws) (length : memory.length = bootimg.sizeofV4)
    {header : BootImgHdrV4} (sized : bootimg.Sized header)
    (isMagic : header.magic = bootimg.bootMagic) (isVersion : header.headerVersion = 4)
    {stream : OpenReader} {behind : Bytes}
    (valid : (OpenReader.serves (padded 4096 (bootimg.storeV4 memory header) ++ behind)).Valid
      stream) : read bootimg stream = .ok ⟨stream, .v4 header⟩ := by
  have headerLength := laws.length_store length sized
  have page := length_padded (show 0 < 4096 by decide) (bootimg.storeV4 memory header)
  have inside : 0 + bootimg.sizeofV2 ≤
      (padded 4096 (bootimg.storeV4 memory header) ++ behind).length := by
    have positive := laws.positive
    have onePage := laws.onePage
    rw [List.length_append, page, headerLength, pages]
    omega
  rcases readAt_front (padded 4096 (bootimg.storeV4 memory header) ++ behind)
    (List.IsPrefix.trans ⟨_, rfl⟩ (List.prefix_append _ _)) (headerLength ▸ laws.v4_le_v2) with
      ⟨others, isOthers⟩
  have magic := laws.magic_store others length sized
  have version := laws.headerVersion_store others length sized
  simp only [read, pReadExact_eq (OpenReader.preads valid) inside, isOthers, bind, Except.bind, magic,
    isMagic, decide_true, cfExpect_true, version, isVersion, laws.loadV4_store others length sized]
  rfl

theorem readsBack_of_lengths (laws : bootimg.Laws) (length : memory.length = bootimg.sizeofV4)
    (given : Given builder kernel ramdisk signature)
    (fits : builder.kernelCommandLine.length < bootimg.cmdlineSize)
    (kernelFits : kernel.length < 4294967296) (ramdiskFits : ramdisk.length < 4294967296)
    (signatureFits : signature.length < 4294967296) :
    ReadsBack bootimg memory builder kernel ramdisk signature := by
  rcases buildV4_eq laws length given fits with ⟨members, contents, built, opened, some_, flat⟩
  have isContent := flat kernelFits ramdiskFits signatureFits
  have sized := sized_header laws length given fits kernel.length ramdisk.length signature.length
  obtain ⟨header, isHeader⟩ : ∃ header, header = builder.header bootimg memory kernel.length
    ramdisk.length signature.length := ⟨_, rfl⟩
  rw [← isHeader] at isContent sized
  have headerLength := laws.length_store length sized
  have page : 0 < 4096 := by decide
  have headerPage : (padded 4096 (bootimg.storeV4 memory header)).length = 4096 := by
    have positive := laws.positive
    have v4_le_v2 := laws.v4_le_v2
    have onePage := laws.onePage
    rw [length_padded page, headerLength, pages]
    omega
  have total : contents.flatten.length < 9223372036854775808 := by
    rw [isContent]
    simp only [List.length_append, headerPage, length_padded page, pages]
    omega
  rcases create_opened opened some_ (by omega) with ⟨offToReader, preads, created⟩
  rcases OpenReader.valid_ofLength preads rfl total with ⟨valid, -⟩
  generalize OpenReader.fakeSeeker (.ofLength (pread offToReader) contents.flatten.length) = stream
    at created valid
  have readHeader : read bootimg stream = .ok ⟨stream, .v4 header⟩ := by
    have whole := isContent
    rw [List.append_assoc, List.append_assoc] at whole
    exact read_eq laws length sized (by rw [isHeader]; rfl) (by rw [isHeader]; rfl)
      (whole ▸ valid)
  have kernelSize : header.kernelSize.toNat = kernel.length := by
    rw [isHeader]
    exact UInt32.toNat_ofNat_of_lt kernelFits
  have ramdiskSize : header.ramdiskSize.toNat = ramdisk.length := by
    rw [isHeader]
    exact UInt32.toNat_ofNat_of_lt ramdiskFits
  have signatureSize : header.signatureSize.toNat = signature.length := by
    rw [isHeader]
    exact UInt32.toNat_ofNat_of_lt signatureFits
  have isCommandLine : cString header.cmdline = .ok builder.kernelCommandLine := by
    rw [isHeader]
    exact cString_snprintf given.noNull ((laws.length_cmdline length).symm ▸ fits)
  have window : ∀ (front behind : Bytes) {part : Bytes} {start : Nat},
      contents.flatten = front ++ (padded 4096 part ++ behind) → start = front.length →
        ReadsToString OpenReader.reader (ReadWindowView.create stream start part.length) part := by
    intro front behind part start split isStart
    rcases readAt_padded split isStart with ⟨inside, isPart⟩
    have reads := ReadWindowView.readsToString valid total inside
    rwa [isPart] at reads
  refine .inr ⟨stream, ⟨stream, .v4 header⟩, built.trans created, readHeader, by rw [isHeader]; rfl,
    isCommandLine, ?_, ?_, ?_⟩
  · change ReadsToString _ (ReadWindowView.create stream 4096 header.kernelSize.toNat) kernel
    rw [kernelSize]
    exact window (padded 4096 (bootimg.storeV4 memory header))
      (padded 4096 ramdisk ++ padded 4096 signature) (by simp [isContent]) headerPage.symm
  · refine ⟨ReadWindowView.create stream ((1 + pages 4096 header.kernelSize.toNat) * 4096)
      header.ramdiskSize.toNat, rfl, ?_⟩
    rw [kernelSize, ramdiskSize]
    apply window (padded 4096 (bootimg.storeV4 memory header) ++ padded 4096 kernel)
      (padded 4096 signature) (by simp [isContent])
    rw [List.length_append, headerPage, length_padded page]
    omega
  · refine ⟨ReadWindowView.create stream ((1 + pages 4096 header.kernelSize.toNat +
      pages 4096 header.ramdiskSize.toNat) * 4096) header.signatureSize.toNat, rfl, ?_⟩
    rw [kernelSize, ramdiskSize, signatureSize]
    apply window (padded 4096 (bootimg.storeV4 memory header) ++ padded 4096 kernel ++
      padded 4096 ramdisk) [] (by simp [isContent])
    rw [List.length_append, List.length_append, headerPage, length_padded page, length_padded page]
    omega

theorem buildV4_long (given : Given builder kernel ramdisk signature)
    (long : bootimg.cmdlineSize ≤ builder.kernelCommandLine.length) :
    (builder.buildV4 bootimg memory).ReturnsError := by
  rcases partLength_eq given.kernel with ⟨kernelPart, kernelLength, -⟩
  rcases partLength_eq given.ramdisk with ⟨ramdiskPart, ramdiskLength, -⟩
  simp only [BootImageBuilder.buildV4, kernelLength, ramdiskLength, Nat.not_lt.mpr long,
    decide_false, cfExpect_false, bind, Except.bind]
  exact Result.returnsError_err _

theorem boot_image_reads_back_iff (laws : bootimg.Laws) (length : memory.length = bootimg.sizeofV4)
    (given : Given builder kernel ramdisk signature) :
    ReadsBack bootimg memory builder kernel ramdisk signature ↔
      bootimg.cmdlineSize ≤ builder.kernelCommandLine.length ∨
        kernel.length < 4294967296 ∧ ramdisk.length < 4294967296 ∧
          signature.length < 4294967296 := by
  by_cases long : bootimg.cmdlineSize ≤ builder.kernelCommandLine.length
  · exact iff_of_true (.inl (buildV4_long given long)) (.inl long)
  · have fits := Nat.lt_of_not_le long
    rw [or_iff_right long]
    exact ⟨fun readsBack => readsBack.lengths laws length given fits,
      fun lengths => readsBack_of_lengths laws length given fits lengths.1 lengths.2.1 lengths.2.2⟩

/-! ## The layout of `bootimg.h` -/

open LittleEndian

def bootimgHeaders : Bootimg where
  bootMagic := "ANDROID!".toUTF8.data.toList
  cmdlineSize := 1536
  sizeofV2 := 1660
  sizeofV4 := 1584
  storeV4 memory header :=
    [header.magic, encode 4 header.kernelSize.toNat, encode 4 header.ramdiskSize.toNat,
      encode 4 header.osVersion.toNat, encode 4 header.headerSize.toNat, memory.readAt 24 16,
      encode 4 header.headerVersion.toNat, header.cmdline,
      encode 4 header.signatureSize.toNat].flatten
  loadV0 memory :=
    { magic := memory.readAt 0 8
      kernelSize := wordAt memory 8
      ramdiskSize := wordAt memory 16
      pageSize := wordAt memory 36
      headerVersion := wordAt memory 40
      osVersion := wordAt memory 44
      cmdline := memory.readAt 64 512
      extraCmdline := memory.readAt 608 1024 }
  loadV3 memory :=
    { magic := memory.readAt 0 8
      kernelSize := wordAt memory 8
      ramdiskSize := wordAt memory 12
      osVersion := wordAt memory 16
      headerSize := wordAt memory 20
      headerVersion := wordAt memory 40
      cmdline := memory.readAt 44 1536 }
  loadV4 memory :=
    { magic := memory.readAt 0 8
      kernelSize := wordAt memory 8
      ramdiskSize := wordAt memory 12
      osVersion := wordAt memory 16
      headerSize := wordAt memory 20
      headerVersion := wordAt memory 40
      cmdline := memory.readAt 44 1536
      signatureSize := wordAt memory 1580 }

theorem bootimgHeaders_laws : bootimgHeaders.Laws := by
  have length_reserved : ∀ {memory : Bytes}, memory.length = 1584 →
      (memory.readAt 24 16).length = 16 := by
    intro memory length
    rw [Bytes.readAt_length, length]
    rfl
  have behind_ : ∀ (memory : Bytes) (header : BootImgHdrV4) (behind : Bytes),
      bootimgHeaders.storeV4 memory header ++ behind =
        [header.magic, encode 4 header.kernelSize.toNat, encode 4 header.ramdiskSize.toNat,
          encode 4 header.osVersion.toNat, encode 4 header.headerSize.toNat, memory.readAt 24 16,
          encode 4 header.headerVersion.toNat, header.cmdline,
          encode 4 header.signatureSize.toNat, behind].flatten := by
    intro memory header behind
    simp [bootimgHeaders]
  refine ⟨by decide, by decide, by decide, ?_, ?_, ?_, ?_, ?_⟩
  · intro memory length
    have length : memory.length = 1584 := length
    change (memory.readAt 44 1536).length = 1536
    rw [Bytes.readAt_length, length]
    rfl
  · intro memory header length sized
    have magic : header.magic.length = 8 := sized.magic
    have cmdline : header.cmdline.length = 1536 := sized.cmdline
    simp [bootimgHeaders, magic, cmdline, length_reserved length]
  · intro memory header behind length sized
    have magic : header.magic.length = 8 := sized.magic
    have cmdline : header.cmdline.length = 1536 := sized.cmdline
    have reserved := length_reserved length
    have fields : bootimgHeaders.loadV4 [header.magic, encode 4 header.kernelSize.toNat,
        encode 4 header.ramdiskSize.toNat, encode 4 header.osVersion.toNat,
        encode 4 header.headerSize.toNat, memory.readAt 24 16, encode 4 header.headerVersion.toNat,
        header.cmdline, encode 4 header.signatureSize.toNat, behind].flatten =
          ⟨⟨header.magic, header.kernelSize, header.ramdiskSize, header.osVersion,
            header.headerSize, header.headerVersion, header.cmdline⟩, header.signatureSize⟩ := by
      simp only [bootimgHeaders]
      congr
      · exact Bytes.readAt_field 0 rfl rfl magic
      · exact wordAt_field 1 rfl (by simp [magic])
      · exact wordAt_field 2 rfl (by simp [magic])
      · exact wordAt_field 3 rfl (by simp [magic])
      · exact wordAt_field 4 rfl (by simp [magic])
      · exact wordAt_field 6 rfl (by simp [magic, reserved])
      · exact Bytes.readAt_field 7 rfl (by simp [magic, reserved]) cmdline
      · exact wordAt_field 8 rfl (by simp [magic, reserved, cmdline])
    exact behind_ memory header behind ▸ fields
  · intro memory header behind length sized
    have magic : header.magic.length = 8 := sized.magic
    rw [behind_]
    exact Bytes.readAt_field 0 rfl rfl magic
  · intro memory header behind length sized
    have magic : header.magic.length = 8 := sized.magic
    rw [behind_]
    exact wordAt_field 6 rfl (by simp [magic, length_reserved length])

def smallBoot : BootImageBuilder where
  kernelCommandLine := [97, 61, 98]
  kernel := some (.inMemory (.ofData [1, 2, 3]))
  ramdisk := none
  signature := some (.inMemory (.ofData [4]))
  osVersion := 7

theorem boot_image_reads_back_small :
    ReadsBack bootimgHeaders (Bytes.zeros 1584) smallBoot [1, 2, 3] [] [4] :=
  have given : Given smallBoot [1, 2, 3] [] [4] :=
    ⟨contains_data _, rfl, contains_data _, by decide⟩
  (boot_image_reads_back_iff bootimgHeaders_laws (Bytes.length_zeros _) given).mpr
    (.inr (by decide))

def largeBoot : BootImageBuilder where
  kernelCommandLine := []
  kernel := some (.inMemory (.ofData (Bytes.zeros 4294967296)))
  ramdisk := none
  signature := none
  osVersion := 0

theorem large_kernel_lost :
    ¬ ReadsBack bootimgHeaders (Bytes.zeros 1584) largeBoot (Bytes.zeros 4294967296) [] [] := by
  intro readsBack
  have given : Given largeBoot (Bytes.zeros 4294967296) [] [] :=
    ⟨contains_data _, rfl, rfl, by simp [largeBoot]⟩
  have lengths := readsBack.lengths bootimgHeaders_laws (Bytes.length_zeros _) given (by decide)
  rw [Bytes.length_zeros] at lengths
  exact Nat.lt_irrefl _ lengths.1

end BootImage

end Cuttlefish.AssembleCvd
