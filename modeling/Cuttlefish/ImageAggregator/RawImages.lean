import Cuttlefish.ImageAggregator.AggregateImage

/-! # The images behind the paths

Which bytes an image stands for, where `DeAndroidSparseIfNeeded` leaves them, and
when converting one image does not overwrite another. -/

namespace Cuttlefish.ImageAggregator

open Fs

/-- The bytes of an image: those of a raw image, or what `simg2img` makes of a
sparse one. -/
def expandedImage (host : Host) (files : FileSystem) (path : Path) : Option Bytes :=
  (files.content path).bind fun content =>
    if isSparse content then (host.simg2img content).toOption else some content

/-- A raw image, or a sparse image that expands to a raw one, whose size is the one
that a table records for it. -/
def IsImage (host : Host) (files : FileSystem) (path : Path) : Prop :=
  ∃ raw, expandedImage host files path = some raw ∧ isSparse raw = false ∧
    (imageOfContent host raw).map DiskImage.virtualSizeBytes = .ok (.ofNat raw.length)

def HasSparse (files : FileSystem) (path : Path) : Prop :=
  (files.content path).any isSparse = true

instance (files : FileSystem) (path : Path) : Decidable (HasSparse files path) :=
  inferInstanceAs (Decidable (_ = _))

def finalImagePath (host : Host) (files : FileSystem) (outputDirectory path : Path) : Path :=
  if HasSparse files path then rawImagePath host outputDirectory path else path

/-- The images are copied from files that are distinct from the output, and the files
that a conversion writes are not those of another image. -/
structure Separate (host : Host) (files : FileSystem) (outputPath : Path)
    (paths : List Path) : Prop where
  output : ∀ path ∈ paths,
    finalImagePath host files (host.dirname outputPath) path ≠ outputPath
  temporary : ∀ path ∈ paths, HasSparse files path → ∀ other ∈ paths,
    tmpRawImagePath host (host.dirname outputPath) path ≠ other ∧
      tmpRawImagePath host (host.dirname outputPath) path ≠
        finalImagePath host files (host.dirname outputPath) other
  converted : ∀ path ∈ paths, ∀ other ∈ paths,
    finalImagePath host files (host.dirname outputPath) path = other ∨
      finalImagePath host files (host.dirname outputPath) path =
        finalImagePath host files (host.dirname outputPath) other →
    path = other

variable {host : Host} {files now final : FileSystem} {outputPath : Path} {paths : List Path}

/-- The state of a conversion: every image is as it was or has been replaced by its
raw bytes, and the images that were dealt with have theirs where they are copied
from. -/
structure Converting (host : Host) (files : FileSystem) (outputPath : Path)
    (paths done : List Path) (now : FileSystem) : Prop where
  intact : ∀ path ∈ paths, now.content path = files.content path ∨
    now.content path = expandedImage host files path ∧
      finalImagePath host files (host.dirname outputPath) path = path
  ready : ∀ path ∈ done,
    now.content (finalImagePath host files (host.dirname outputPath) path) =
      expandedImage host files path

theorem converting_start : Converting host files outputPath paths [] files where
  intact _ _ := .inl rfl
  ready _ member := absurd member List.not_mem_nil

private theorem forceRawImage_raw {path : Path} {content : Bytes} {done : List Path}
    (converting : Converting host files outputPath paths done now) (member : path ∈ paths)
    (stored : now.content path = some content) (isRaw : isSparse content = false) :
    finalImagePath host files (host.dirname outputPath) path = path ∧
      expandedImage host files path = some content := by
  rcases converting.intact path member with same | replaced
  · rw [stored] at same
    have notSparse : ¬ HasSparse files path := by
      simp [HasSparse, ← same, isRaw]
    exact ⟨by rw [finalImagePath, if_neg notSparse], by simp [expandedImage, ← same, isRaw]⟩
  · exact ⟨replaced.2, by rw [← replaced.1, stored]⟩

private theorem content_of_sparse {path : Path} {content : Bytes} {done : List Path}
    (converting : Converting host files outputPath paths done now) (member : path ∈ paths)
    (image : IsImage host files path) (stored : now.content path = some content)
    (sparse : isSparse content = true) : files.content path = some content := by
  rcases converting.intact path member with same | replaced
  · rw [← same, stored]
  · rcases image with ⟨raw, expanded, isRaw, _⟩
    rw [stored, expanded] at replaced
    cases replaced.1
    rw [isRaw] at sparse
    contradiction

private theorem Converting.convert {path : Path} {done : List Path} {raw : Bytes}
    (separate : Separate host files outputPath paths)
    (images : ∀ path ∈ paths, IsImage host files path)
    (doneMembers : ∀ other ∈ done, other ∈ paths)
    (converting : Converting host files outputPath paths done now) (member : path ∈ paths)
    (sparse : HasSparse files path) (expanded : expandedImage host files path = some raw)
    (lockPath : Path) :
    Converting host files outputPath paths (path :: done)
      (((now.create lockPath).set (tmpRawImagePath host (host.dirname outputPath) path)
        raw).rename (tmpRawImagePath host (host.dirname outputPath) path)
        (finalImagePath host files (host.dirname outputPath) path) raw) := by
  generalize isFinal : ((now.create lockPath).set
    (tmpRawImagePath host (host.dirname outputPath) path) raw).rename
    (tmpRawImagePath host (host.dirname outputPath) path)
    (finalImagePath host files (host.dirname outputPath) path) raw = final
  have kept : ∀ other bytes,
      other ≠ finalImagePath host files (host.dirname outputPath) path →
      tmpRawImagePath host (host.dirname outputPath) path ≠ other →
      now.content other = some bytes → final.content other = some bytes := by
    intro other bytes notNew notTmp otherStored
    rw [← isFinal, FileSystem.content_rename_of_ne _ _ notTmp.symm notNew,
      FileSystem.content_set_of_ne _ _ notTmp.symm]
    exact now.content_create otherStored
  have written : final.content (finalImagePath host files (host.dirname outputPath) path) =
      expandedImage host files path := by
    rw [← isFinal, expanded]
    exact FileSystem.content_rename_new _ _ _ _
  constructor
  · intro other otherMember
    by_cases isNew : other = finalImagePath host files (host.dirname outputPath) path
    · have same := separate.converted path member other otherMember (.inl isNew.symm)
      rw [← same] at isNew ⊢
      rw [← isNew] at written ⊢
      exact .inr ⟨written, rfl⟩
    · have notTmp := (separate.temporary path member sparse other otherMember).1
      rcases images other otherMember with ⟨otherRaw, otherExpanded, _⟩
      rcases converting.intact other otherMember with same | replaced
      · rcases Option.bind_eq_some_iff.mp otherExpanded with ⟨bytes, otherStored, _⟩
        rw [otherStored] at same ⊢
        exact .inl (kept other bytes isNew notTmp same)
      · rw [otherExpanded] at replaced ⊢
        exact .inr ⟨kept other otherRaw isNew notTmp replaced.1, replaced.2⟩
  · intro other otherMember
    rcases List.mem_cons.mp otherMember with same | old
    · rw [same]
      exact written
    · have otherIn := doneMembers other old
      rcases images other otherIn with ⟨otherRaw, otherExpanded, _⟩
      by_cases sameTarget : finalImagePath host files (host.dirname outputPath) other =
          finalImagePath host files (host.dirname outputPath) path
      · have same := separate.converted path member other otherIn (.inr sameTarget.symm)
        rw [← same]
        exact written
      · have stillReady := converting.ready other old
        rw [otherExpanded] at stillReady ⊢
        exact kept _ _ sameTarget (separate.temporary path member sparse other otherIn).2
          stillReady

theorem Converting.forceRawImage {path newPath : Path} {done : List Path}
    (separate : Separate host files outputPath paths)
    (images : ∀ path ∈ paths, IsImage host files path)
    (doneMembers : ∀ other ∈ done, other ∈ paths)
    (converting : Converting host files outputPath paths done now) (member : path ∈ paths)
    (forced : forceRawImage host now path (host.dirname outputPath) = .ok (newPath, final)) :
    newPath = finalImagePath host files (host.dirname outputPath) path ∧
      Converting host files outputPath paths (path :: done) final := by
  have present : ∃ content, now.content path = some content := by
    cases stored : now.content path with
    | some content => exact ⟨content, rfl⟩
    | none =>
        simp [ImageAggregator.forceRawImage, isSparseImage, stored, bind, Except.bind] at forced
  rcases present with ⟨content, stored⟩
  by_cases sparse : isSparse content = true
  · have original := content_of_sparse converting member (images path member) stored sparse
    have hasSparse : HasSparse files path := by simp [HasSparse, original, sparse]
    rcases forceRawImage_of_sparse stored sparse forced with
      ⟨isPath, raw, lockPath, converted, isFinal⟩
    have target : newPath = finalImagePath host files (host.dirname outputPath) path := by
      rw [finalImagePath, if_pos hasSparse, isPath]
    have expanded : expandedImage host files path = some raw := by
      simp [expandedImage, original, sparse, converted, Except.toOption]
    rw [isFinal, target]
    exact ⟨rfl, converting.convert separate images doneMembers member hasSparse expanded lockPath⟩
  · have isRaw : isSparse content = false := by simpa using sparse
    rw [forceRawImage_of_raw stored isRaw] at forced
    cases forced
    rcases forceRawImage_raw converting member stored isRaw with ⟨target, expanded⟩
    refine ⟨target.symm, converting.intact, ?_⟩
    intro other otherMember
    rcases List.mem_cons.mp otherMember with same | old
    · rw [same, target, stored, expanded]
    · exact converting.ready other old

def finalPartition (host : Host) (files : FileSystem) (outputPath : Path)
    (partition : ImagePartition) : ImagePartition :=
  { partition with
    imageFilePath := finalImagePath host files (host.dirname outputPath)
      partition.imageFilePath }

private theorem deAndroidSparse_converting (separate : Separate host files outputPath paths)
    (images : ∀ path ∈ paths, IsImage host files path) :
    ∀ {partitions converted : List ImagePartition} {done : List Path}
      {now final : FileSystem},
      (∀ other ∈ done, other ∈ paths) →
      (∀ partition ∈ partitions, partition.imageFilePath ∈ paths) →
      Converting host files outputPath paths done now →
      deAndroidSparse host (host.dirname outputPath) now partitions = .ok (converted, final) →
      converted = partitions.map (finalPartition host files outputPath) ∧
        ∃ allDone, Converting host files outputPath paths allDone final ∧
          (∀ other ∈ done, other ∈ allDone) ∧
          ∀ partition ∈ partitions, partition.imageFilePath ∈ allDone
  | [], converted, done, now, final => by
      intro _ _ converting forced
      cases forced
      exact ⟨rfl, done, converting, fun _ member => member, by simp⟩
  | partition :: rest, converted, done, now, final => by
      intro doneMembers members converting forced
      have member := members partition List.mem_cons_self
      rcases Result.bind_eq_ok.mp forced with ⟨⟨path, middle⟩, first, forced⟩
      rcases Result.bind_eq_ok.mp forced with ⟨⟨others, last⟩, remaining, returned⟩
      cases returned
      rcases converting.forceRawImage separate images doneMembers member first with
        ⟨isPath, convertingMiddle⟩
      have stepMembers : ∀ other ∈ partition.imageFilePath :: done, other ∈ paths := by
        intro other otherMember
        rcases List.mem_cons.mp otherMember with same | old
        · exact same ▸ member
        · exact doneMembers other old
      rcases deAndroidSparse_converting separate images stepMembers
          (fun other otherMember => members other (List.mem_cons_of_mem _ otherMember))
          convertingMiddle remaining with
        ⟨othersEq, allDone, convertingLast, doneKept, restDone⟩
      refine ⟨?_, allDone, convertingLast, ?_, ?_⟩
      · rw [othersEq, isPath]
        rfl
      · intro other otherMember
        exact doneKept other (List.mem_cons_of_mem _ otherMember)
      · intro other otherMember
        rcases List.mem_cons.mp otherMember with same | later
        · exact same ▸ doneKept _ List.mem_cons_self
        · exact restDone other later

theorem deAndroidSparse_spec {partitions converted : List ImagePartition}
    (separate : Separate host files outputPath (partitions.map ImagePartition.imageFilePath))
    (images : ∀ partition ∈ partitions, IsImage host files partition.imageFilePath)
    (forced : deAndroidSparse host (host.dirname outputPath) files partitions =
      .ok (converted, final)) :
    converted = partitions.map (finalPartition host files outputPath) ∧
      ∀ partition ∈ partitions,
        final.content (finalPartition host files outputPath partition).imageFilePath =
          expandedImage host files partition.imageFilePath := by
  have imagesAt : ∀ path ∈ partitions.map ImagePartition.imageFilePath,
      IsImage host files path := by
    intro path member
    rcases List.mem_map.mp member with ⟨partition, inList, isPath⟩
    exact isPath ▸ images partition inList
  rcases deAndroidSparse_converting separate imagesAt (by simp)
      (fun _ member => List.mem_map_of_mem member) converting_start forced with
    ⟨isConverted, allDone, converting, _, partitionsDone⟩
  exact ⟨isConverted, fun partition member =>
    converting.ready partition.imageFilePath (partitionsDone partition member)⟩

end Cuttlefish.ImageAggregator
