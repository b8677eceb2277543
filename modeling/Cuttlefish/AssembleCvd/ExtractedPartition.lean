import Cuttlefish.AssembleCvd.SuperImage

/-! # Extracted partitions are exact -/

namespace Cuttlefish.AssembleCvd.SuperImage

open Fs Bytes

/-! ## Sizes -/

theorem maxFileSize_lt : maxFileSize < 9223372036854775808 := by decide

theorem toNat_mul_lpSectorSize {value : UInt64} (fits : value.toNat * 512 ≤ maxFileSize) :
    (value * lpSectorSize).toNat = value.toNat * 512 := by
  have isSize : lpSectorSize.toNat = 512 := rfl
  have inRange : (9223372036854775808 : Nat) < 2 ^ 64 := by decide
  rw [UInt64.toNat_mul, isSize]
  exact Nat.mod_eq_of_lt (Nat.lt_trans (Nat.lt_of_le_of_lt fits maxFileSize_lt) inRange)

theorem offT_eq {value : UInt64} (fits : value.toNat ≤ maxFileSize) :
    offT value = value.toNat := by
  have small := Nat.lt_of_le_of_lt fits maxFileSize_lt
  unfold offT
  generalize value.toNat = number at *
  apply Int.bmod_eq_of_le
  · omega
  · omega

theorem wholeBuffers_preferred : WholeBuffers fun _ => .upTo preferredBufferSize := by
  intro _ count isCount
  cases isCount
  exact Nat.le_refl _

def Bounded (file : OpenFile) : Prop :=
  file.content.length ≤ maxFileSize ∧ file.position ≤ maxFileSize

theorem Bounded.write {file : OpenFile} (bounded : Bounded file) {data : Bytes}
    (fits : file.position + data.length ≤ maxFileSize) : Bounded (file.write data) := by
  refine ⟨?_, fits⟩
  rw [OpenFile.write]
  by_cases empty : data = []
  · simpa [writeAt, empty] using bounded.1
  · rw [length_writeAt_of_ne_nil _ _ empty]
    exact Nat.max_le.mpr ⟨bounded.1, fits⟩

theorem Bounded.lseek {file final : OpenFile} (bounded : Bounded file) {position : Int}
    (ran : SuperImage.lseek file position = .ok final) : Bounded final := by
  rw [SuperImage.lseek] at ran
  split at ran
  next inRange =>
    cases ran
    exact ⟨bounded.1, by change position.toNat ≤ _; omega⟩
  next => cases ran

theorem Bounded.copyLoop {source : Bytes} {fuel readCall writeCall length position : Nat}
    {file final : OpenFile} (bounded : Bounded file)
    (ran : Fs.copyLoop (fun _ => .upTo preferredBufferSize) (fun _ => .upTo preferredBufferSize)
      (fun _ => source) fuel readCall writeCall length position file = some final) :
    Bounded final := by
  induction fuel generalizing readCall writeCall length position file with
  | zero =>
      rw [Fs.copyLoop] at ran
      split at ran
      · cases ran
        exact bounded
      · cases ran
  | succ fuel induction =>
      rw [Fs.copyLoop] at ran
      dsimp only at ran
      split at ran
      · cases ran
        exact bounded
      · split at ran
        · cases ran
        · split at ran
          · cases ran
          next wrote =>
            have small : (source.readAt position (min (max 1 preferredBufferSize)
                (min preferredBufferSize length))).length ≤ preferredBufferSize := by
              rw [readAt_length]
              omega
            rcases writeBuffer_whole wholeBuffers_preferred small wrote with ⟨rfl, fits⟩
            exact induction (bounded.write fits) ran

theorem Bounded.copyFrom {source : Bytes} {length position : Nat} {file final : OpenFile}
    (bounded : Bounded file)
    (ran : SuperImage.copyFrom source length position file = .ok final) : Bounded final := by
  rw [SuperImage.copyFrom] at ran
  split at ran
  · cases ran
  next looped =>
    cases ran
    exact bounded.copyLoop looped

theorem Bounded.extractExtent {source : Bytes} {file final : OpenFile} {extent : LpMetadataExtent}
    (bounded : Bounded file) (ran : SuperImage.extractExtent source file extent = .ok final) :
    Bounded final := by
  rw [SuperImage.extractExtent] at ran
  dsimp only at ran
  split at ran
  · rcases Result.bind_eq_ok.mp ran with ⟨_, -, ran⟩
    exact bounded.copyFrom ran
  · exact bounded.lseek ran
  · cases ran

theorem Bounded.extractExtents {source : Bytes} {extents : List LpMetadataExtent}
    {file final : OpenFile} (bounded : Bounded file)
    (ran : extents.foldlM (SuperImage.extractExtent source) file = .ok final) : Bounded final := by
  induction extents generalizing file with
  | nil =>
      cases ran
      exact bounded
  | cons extent extents induction =>
      rw [List.foldlM_cons] at ran
      rcases Result.bind_eq_ok.mp ran with ⟨next, isNext, rest⟩
      exact induction (bounded.extractExtent isNext) rest

/-! ## One extent -/

theorem copyFrom_eq {source : Bytes} {length position : Nat} {file : OpenFile}
    (inside : position + length ≤ source.length) (fits : file.position + length ≤ maxFileSize) :
    copyFrom source length position file = .ok (file.write (source.readAt position length)) := by
  rcases copyLoop_of_transfers (Nat.le_refl length) inside fits with ⟨final, looped⟩
  have bound : file.position ≤ maxFileSize := Nat.le_trans (Nat.le_add_right _ _) fits
  rw [copyFrom, looped, (copyLoop_whole wholeBuffers_preferred inside bound looped).1]

theorem extractExtent_linear {superImage : Bytes} {extent : LpMetadataExtent} {file : OpenFile}
    (isFile : superImage.length ≤ maxFileSize) (linear : extent.targetType = .linear)
    (inside : extent.start + extent.size ≤ superImage.length)
    (fits : file.position + extent.size ≤ maxFileSize) :
    extractExtent superImage file extent = .ok (file.write (extent.bytes superImage)) := by
  have isLength : (extent.numSectors * lpSectorSize).toNat = extent.size :=
    toNat_mul_lpSectorSize (Nat.le_trans (Nat.le_add_left _ _) fits)
  have isOffset : (extent.targetData * lpSectorSize).toNat = extent.start :=
    toNat_mul_lpSectorSize (Nat.le_trans (Nat.le_add_right _ _) (Nat.le_trans inside isFile))
  have inRange : extent.start ≤ maxFileSize :=
    Nat.le_trans (Nat.le_add_right _ _) (Nat.le_trans inside isFile)
  have isOffT : offT (extent.targetData * lpSectorSize) = extent.start := by
    rw [offT_eq (by rw [isOffset]; exact inRange), isOffset]
  rw [extractExtent, linear]
  dsimp only
  rw [isOffT, isLength, isOffset, copyFrom_eq inside fits,
    LpMetadataExtent.bytes, linear]
  simp [inRange]
  rfl

theorem extractExtent_zero {superImage : Bytes} {extent : LpMetadataExtent} {file : OpenFile}
    (zero : extent.targetType = .zero) (fits : file.position + extent.size ≤ maxFileSize) :
    extractExtent superImage file extent = .ok (file.lseek (file.position + extent.size)) := by
  have isLength : (extent.numSectors * lpSectorSize).toNat = extent.size :=
    toNat_mul_lpSectorSize (Nat.le_trans (Nat.le_add_left _ _) fits)
  have isOffT : offT (extent.numSectors * lpSectorSize) = extent.size := by
    rw [offT_eq (by rw [isLength]; omega), isLength]
  have inRange : (0 : Int) ≤ file.position + extent.size ∧
      ((file.position : Int) + extent.size) ≤ maxFileSize := by
    omega
  rw [extractExtent, zero]
  dsimp only
  rw [isOffT, lseek, if_pos inRange]
  rfl

theorem length_bytes {superImage : Bytes} {extent : LpMetadataExtent}
    (liesIn : extent.LiesIn superImage) : (extent.bytes superImage).length = extent.size := by
  rw [LpMetadataExtent.bytes]
  rcases liesIn with ⟨linear, inside⟩ | zero
  · rw [linear]
    dsimp only
    rw [readAt, List.length_take, List.length_drop]
    omega
  · rw [zero]
    exact length_zeros _

/-! ## All extents -/

theorem write_behind {file : OpenFile} {pending : Nat} {data : Bytes}
    (position : file.position = file.content.length + pending) (nonempty : data ≠ []) :
    (file.write data).content = file.content ++ zeros pending ++ data := by
  rw [OpenFile.write, writeAt, if_neg nonempty, position, Nat.add_sub_cancel_left,
    List.take_of_length_le (Nat.le_add_right _ _), List.drop_eq_nil_of_le (by omega),
    List.append_nil]
  rfl

theorem zeros_add (first second : Nat) : zeros (first + second) = zeros first ++ zeros second :=
  List.replicate_append_replicate.symm

theorem extractExtents_eq {superImage : Bytes} (isFile : superImage.length ≤ maxFileSize)
    {extents : List LpMetadataExtent} (lieIn : ∀ extent ∈ extents, extent.LiesIn superImage)
    {file : OpenFile} {pending : Nat} (position : file.position = file.content.length + pending)
    (fits : file.position + totalSize extents ≤ maxFileSize) :
    ∃ final, extents.foldlM (extractExtent superImage) file = .ok final ∧
      final.content ++ zeros (trailingZerosFrom pending extents) =
        file.content ++ zeros pending ++ extents.flatMap (·.bytes superImage) := by
  induction extents generalizing file pending with
  | nil => exact ⟨file, rfl, by simp [trailingZerosFrom]⟩
  | cons extent extents induction =>
      rcases List.forall_mem_cons.mp lieIn with ⟨liesIn, others⟩
      rw [totalSize, List.map_cons, List.sum_cons, ← totalSize] at fits
      rw [List.foldlM_cons, List.flatMap_cons, trailingZerosFrom]
      have isLength := length_bytes liesIn
      rcases liesIn with ⟨linear, inside⟩ | zero
      · rw [extractExtent_linear isFile linear inside (by omega), linear]
        dsimp only
        by_cases empty : extent.size = 0
        · have nothing : extent.bytes superImage = [] := by
            rw [← List.length_eq_zero_iff, isLength, empty]
          rcases induction others position (by omega) with ⟨final, isFinal, isContent⟩
          rw [nothing, OpenFile.write_nil, if_pos empty, List.nil_append]
          exact ⟨final, isFinal, isContent⟩
        · have nonempty : extent.bytes superImage ≠ [] := by
            rw [← List.length_pos_iff, isLength]
            exact Nat.pos_of_ne_zero empty
          have written := write_behind position nonempty
          have behind : (file.write (extent.bytes superImage)).position =
              (file.write (extent.bytes superImage)).content.length + 0 := by
            rw [written, OpenFile.write, position, List.length_append, List.length_append,
              length_zeros]
            rfl
          have isBehind : (file.write (extent.bytes superImage)).position =
              file.position + extent.size := by
            rw [OpenFile.write, isLength]
          rcases induction others behind (by omega) with ⟨final, isFinal, isContent⟩
          rw [if_neg empty]
          refine ⟨final, isFinal, isContent.trans ?_⟩
          have noZeros : zeros 0 = [] := rfl
          rw [written, noZeros, List.append_nil, List.append_assoc]
      · have isBytes : extent.bytes superImage = zeros extent.size := by
          rw [LpMetadataExtent.bytes, zero]
        rw [extractExtent_zero zero (by omega), zero]
        dsimp only
        have behind : (file.lseek (file.position + extent.size)).position =
            (file.lseek (file.position + extent.size)).content.length +
              (pending + extent.size) := by
          change file.position + extent.size = file.content.length + (pending + extent.size)
          omega
        rcases induction others behind (by
          change file.position + extent.size + _ ≤ _
          omega) with ⟨final, isFinal, isContent⟩
        refine ⟨final, isFinal, isContent.trans ?_⟩
        rw [isBytes, zeros_add, ← List.append_assoc, List.append_assoc, List.append_assoc,
          List.append_assoc]
        rfl

theorem length_flatMap_bytes {superImage : Bytes} {extents : List LpMetadataExtent}
    (lieIn : ∀ extent ∈ extents, extent.LiesIn superImage) :
    (extents.flatMap (·.bytes superImage)).length = totalSize extents := by
  induction extents with
  | nil => rfl
  | cons extent extents induction =>
      rcases List.forall_mem_cons.mp lieIn with ⟨liesIn, others⟩
      rw [List.flatMap_cons, List.length_append, length_bytes liesIn, induction others, totalSize,
        totalSize, List.map_cons, List.sum_cons]

theorem extractsExactly_iff {superImage : Bytes} (isFile : superImage.length ≤ maxFileSize)
    {extents : List LpMetadataExtent} (lieIn : ∀ extent ∈ extents, extent.LiesIn superImage) :
    ExtractsExactly superImage extents ↔
      totalSize extents ≤ maxFileSize ∧ trailingZerosFrom 0 extents = 0 := by
  have started : lseek ⟨[], 0⟩ 0 = .ok ⟨[], 0⟩ := by decide
  have extracts (file : OpenFile) : extractPartition superImage extents ⟨[], 0⟩ = .ok file ↔
      extents.foldlM (extractExtent superImage) ⟨[], 0⟩ = .ok file := by
    rw [extractPartition, started]
    rfl
  have extracted (fits : totalSize extents ≤ maxFileSize) :
      ∃ final, extents.foldlM (extractExtent superImage) ⟨[], 0⟩ = .ok final ∧
        final.content ++ zeros (trailingZerosFrom 0 extents) =
          extents.flatMap (·.bytes superImage) := by
    have fitsBehind : (⟨[], 0⟩ : OpenFile).position + totalSize extents ≤ maxFileSize := by
      rwa [Nat.zero_add]
    exact extractExtents_eq isFile lieIn rfl fitsBehind
  constructor
  · rintro ⟨file, isExtracted, isContent⟩
    have ran := (extracts file).mp isExtracted
    have bounded := Bounded.extractExtents (⟨Nat.zero_le _, Nat.zero_le _⟩ : Bounded ⟨[], 0⟩) ran
    have isLength := congrArg List.length isContent
    rw [length_flatMap_bytes lieIn] at isLength
    have fits : totalSize extents ≤ maxFileSize := isLength ▸ bounded.1
    rcases extracted fits with ⟨final, isFinal, isWhole⟩
    rw [ran] at isFinal
    cases isFinal
    have sameLength := congrArg List.length isWhole
    rw [isContent, List.length_append, length_zeros] at sameLength
    exact ⟨fits, Nat.left_eq_add.mp sameLength.symm⟩
  · rintro ⟨fits, noTrailing⟩
    rcases extracted fits with ⟨final, isFinal, isWhole⟩
    rw [noTrailing, zeros, List.replicate_zero, List.append_nil] at isWhole
    exact ⟨final, (extracts final).mpr isFinal, isWhole⟩

/-! ## Indices of extents -/

theorem readExtents_cons_abort {extents : List LpMetadataExtent} {first i : UInt32}
    {remaining : Nat} {message : String} (inside : (i + first).toNat < extents.length) :
    readExtents extents first (remaining + 1) i = .error (.abort message) ↔
      readExtents extents first remaining (i + 1) = .error (.abort message) := by
  have notBehind : cfExpect (decide ((i + first).toNat ≤ extents.length))
      "i + partition.first_extent_index" = .ok () := by
    rw [decide_eq_true (Nat.le_of_lt inside)]
    rfl
  rw [readExtents, notBehind, List.getElem?_eq_getElem inside]
  cases readExtents extents first remaining (i + 1) with
  | error failure => rfl
  | ok rest =>
      constructor
      · intro isAbort
        cases isAbort
      · intro isAbort
        cases isAbort

theorem readExtents_inside_iff {extents : List LpMetadataExtent} {first : UInt32}
    {remaining : Nat} (i : UInt32) :
    (∀ message, readExtents extents first remaining i ≠ .error (.abort message)) ↔
      remaining = 0 ∨ extents.length < (i + first).toNat ∨
        (i + first).toNat + remaining ≤ extents.length ∨ 4294967296 ≤ extents.length := by
  induction remaining generalizing i with
  | zero => simp [readExtents]
  | succ remaining induction =>
      have inRange := (i + first).toNat_lt
      rcases Nat.lt_trichotomy (i + first).toNat extents.length with inside | atEnd | behind
      · have next : (i + 1 + first).toNat = ((i + first).toNat + 1) % 4294967296 := by
          have same : i + 1 + first = i + first + 1 := by
            rw [UInt32.add_assoc, UInt32.add_comm 1 first, ← UInt32.add_assoc]
          rw [same, UInt32.toNat_add]
          rfl
        have step : (∀ message, readExtents extents first (remaining + 1) i ≠
            .error (.abort message)) ↔
            ∀ message, readExtents extents first remaining (i + 1) ≠ .error (.abort message) :=
          forall_congr' fun message => not_congr (readExtents_cons_abort inside)
        rw [step, induction, next]
        omega
      · have aborts : readExtents extents first (remaining + 1) i =
            .error (.abort "metadata.extents") := by
          have atMost : cfExpect (decide ((i + first).toNat ≤ extents.length))
              "i + partition.first_extent_index" = .ok () := by
            rw [decide_eq_true (Nat.le_of_eq atEnd)]
            rfl
          rw [readExtents, atMost, List.getElem?_eq_none (Nat.le_of_eq atEnd.symm)]
          rfl
        constructor
        · exact fun inside => absurd aborts (inside _)
        · omega
      · have refused : readExtents extents first (remaining + 1) i =
            .error (.err "i + partition.first_extent_index") := by
          rw [readExtents, decide_eq_false (Nat.not_le_of_lt behind)]
          rfl
        constructor
        · exact fun _ => .inr (.inl behind)
        · intro _ message isAbort
          rw [refused] at isAbort
          cases isAbort

/-- No extent of the partition has the index behind the last one. -/
def IndicesInside (metadata : LpMetadata) (name : Text) : Prop :=
  ∀ partition ∈ metadata.partitions.find? (matchesName name),
    partition.numExtents.toNat = 0 ∨
      metadata.extents.length < partition.firstExtentIndex.toNat ∨
      partition.firstExtentIndex.toNat + partition.numExtents.toNat ≤ metadata.extents.length ∨
      4294967296 ≤ metadata.extents.length

theorem readsInside_iff (metadata : LpMetadata) (name : Text) :
    ReadsInside metadata name ↔ IndicesInside metadata name := by
  rw [ReadsInside, IndicesInside, partitionExtents]
  cases metadata.partitions.find? (matchesName name) with
  | none => simp
  | some partition =>
      dsimp only
      rw [readExtents_inside_iff, UInt32.zero_add]
      simp

/-- Extraction is exact for partitions that do not end in zeros, and the index behind the last one
is not checked. -/
theorem extraction_exact_iff (superImage : Bytes) (isFile : superImage.length ≤ maxFileSize)
    (extents : List LpMetadataExtent) (lieIn : ∀ extent ∈ extents, extent.LiesIn superImage)
    (metadata : LpMetadata) (name : Text) :
    ExtractsExactly superImage extents ∧ ReadsInside metadata name ↔
      (totalSize extents ≤ maxFileSize ∧ trailingZerosFrom 0 extents = 0) ∧
        IndicesInside metadata name :=
  and_congr (extractsExactly_iff isFile lieIn) (readsInside_iff metadata name)

theorem imageFile_eq {superImage : Bytes} (isFile : superImage.length ≤ maxFileSize)
    {metadata : LpMetadata} {name : Text} {extents : List LpMetadataExtent}
    (found : partitionExtents metadata name = .ok extents)
    (lieIn : ∀ extent ∈ extents, extent.LiesIn superImage)
    (fits : totalSize extents ≤ maxFileSize) (noTrailing : trailingZerosFrom 0 extents = 0) :
    imageFile superImage metadata name = .ok (extents.flatMap (·.bytes superImage)) := by
  rcases (extractsExactly_iff isFile lieIn).mpr ⟨fits, noTrailing⟩ with
    ⟨file, isExtracted, isContent⟩
  rw [imageFile, found, ← isContent]
  change (do
    let destination ← extractPartition superImage extents ⟨[], 0⟩
    return destination.content) = _
  rw [isExtracted]
  rfl

def linearSector : LpMetadataExtent := ⟨1, .linear, 0⟩

def zeroSector : LpMetadataExtent := ⟨1, .zero, 0⟩

theorem extraction_exact_linear :
    ExtractsExactly (List.replicate 512 7) [zeroSector, linearSector] ∧
      ReadsInside ⟨[⟨"system_a".toList, 0, 2⟩], [zeroSector, linearSector]⟩ "system".toList := by
  have lieIn : ∀ extent ∈ [zeroSector, linearSector], extent.LiesIn (List.replicate 512 7) := by
    intro extent isExtent
    rcases List.mem_cons.mp isExtent with rfl | isExtent
    · exact .inr rfl
    · rcases List.mem_singleton.mp isExtent with rfl
      exact .inl ⟨rfl, by decide +kernel⟩
  refine (extraction_exact_iff _ (by decide +kernel) _ lieIn _ _).mpr
    ⟨⟨by decide +kernel, by decide +kernel⟩, ?_⟩
  intro partition isPartition
  have isFound : partition = ⟨"system_a".toList, 0, 2⟩ := by
    have found : (LpMetadata.partitions ⟨[⟨"system_a".toList, 0, 2⟩], [zeroSector, linearSector]⟩).find?
        (matchesName "system".toList) = some ⟨"system_a".toList, 0, 2⟩ := by
      rfl
    rw [found] at isPartition
    exact (Option.some.inj isPartition).symm
  subst isFound
  exact .inr (.inr (.inl (by decide)))

/-- A partition of one sector of zeros is extracted to an empty file. -/
theorem last_zero_extent_lost :
    ¬ ∀ (superImage : Bytes) (extents : List LpMetadataExtent) (metadata : LpMetadata)
        (name : Text), superImage.length ≤ maxFileSize →
      (∀ extent ∈ extents, extent.LiesIn superImage) →
        ExtractsExactly superImage extents ∧ ReadsInside metadata name := by
  intro always
  have lieIn : ∀ extent ∈ [zeroSector], extent.LiesIn [] := by
    intro extent isExtent
    rw [List.mem_singleton.mp isExtent]
    exact .inr rfl
  rcases (always [] [zeroSector] ⟨[], []⟩ [] (by decide) lieIn).1 with ⟨file, isFile, isContent⟩
  have extracted : extractPartition [] [zeroSector] ⟨[], 0⟩ = .ok ⟨[], 512⟩ := by decide +kernel
  rw [extracted] at isFile
  cases isFile
  revert isContent
  decide +kernel

end Cuttlefish.AssembleCvd.SuperImage
