import Cuttlefish.ImageAggregator.GptLayout

/-! # Specifications of composite disks

`MakeCompositeDiskSpec`: the components of a composite disk, and how far the file of
each of them reaches. -/

namespace Cuttlefish.ImageAggregator

open Fs

inductive ComponentFile
  | header
  | image (path : Path)
  | footer
  deriving DecidableEq, Repr

inductive ReadWriteCapability
  | readOnly
  | readWrite
  deriving DecidableEq, Repr

/-- `ComponentDisk` of `cdisk_spec.proto`; the default capability is `READ_ONLY`. -/
structure ComponentDisk where
  file : ComponentFile
  offset : UInt64
  readWriteCapability : ReadWriteCapability := .readOnly
  deriving DecidableEq, Repr

structure CompositeDisk where
  version : UInt64
  componentDisks : List ComponentDisk
  length : UInt64
  deriving DecidableEq, Repr

variable {host : Host} {files : FileSystem} {builder : CompositeDiskBuilder}

namespace CompositeDiskBuilder

def partitionComponents (builder : CompositeDiskBuilder) (partition : PartitionInfo) :
    List ComponentDisk :=
  { file := .image partition.source.imageFilePath
    offset := partition.offset
    readWriteCapability := if builder.readOnly then .readOnly else .readWrite } ::
    if partition.alignedSize ≠ partition.size then
      [{ file := .header, offset := partition.offset + partition.size }]
    else []

def allPartitionComponents (host : Host) (files : FileSystem) (builder : CompositeDiskBuilder) :
    List PartitionInfo → Result (List ComponentDisk)
  | [] => .ok []
  | partition :: rest => do
      let size ← expandedStorageSize host files partition.source.imageFilePath
      cfExpect (partition.size = size) "partition.size == size"
      let components ← allPartitionComponents host files builder rest
      return builder.partitionComponents partition ++ components

def makeCompositeDiskSpec (host : Host) (files : FileSystem) (builder : CompositeDiskBuilder) :
    Result CompositeDisk := do
  let components ← builder.allPartitionComponents host files builder.partitions
  return {
    version := 2
    componentDisks :=
      { file := .header, offset := 0 } ::
        (components ++ [{ file := .footer, offset := builder.nextDiskOffset }])
    length := builder.diskSize }

end CompositeDiskBuilder

def footerBytes (gptEnd : GptEnd) : Bytes :=
  Bytes.zeros (endPadding gptEnd).toNat ++ gptEnd.encode

/-- The length of the disk that a component's file holds. The header and the footer
file hold what `WriteBeginning` and `WriteEnd` wrote. -/
def fileLength (host : Host) (files : FileSystem) (beginning : GptBeginning) (gptEnd : GptEnd) :
    ComponentFile → Nat
  | .header => beginning.encode.length
  | .image path =>
      match expandedStorageSize host files path with
      | .ok size => size.toNat
      | .error _ => 0
  | .footer => (footerBytes gptEnd).length

/-! ## Components one behind the other -/

/-- Components from one offset to another. Each starts where it should and reaches the
next one, in the given sense. -/
inductive Chain (Reaches : ComponentDisk → Nat → Prop) : Nat → List ComponentDisk → Nat → Prop
  | nil (start : Nat) : Chain Reaches start [] start
  | cons {component : ComponentDisk} {rest : List ComponentDisk} {next finish : Nat}
      (forward : component.offset.toNat < next) (reaches : Reaches component next)
      (chain : Chain Reaches next rest finish) :
      Chain Reaches component.offset.toNat (component :: rest) finish

/-- The file of the component ends exactly there. -/
def EndsAt (length : ComponentFile → Nat) (component : ComponentDisk) (next : Nat) : Prop :=
  component.offset.toNat + length component.file = next

def ComponentDisk.IsFiller (component : ComponentDisk) : Prop :=
  component.file = .header ∧ component.offset ≠ 0

def Fills (length : ComponentFile → Nat) (component : ComponentDisk) (next : Nat) : Prop :=
  EndsAt length component next ∨
    component.IsFiller ∧ next ≤ component.offset.toNat + length component.file

namespace Chain

variable {Reaches : ComponentDisk → Nat → Prop} {start middle finish : Nat}
  {front back : List ComponentDisk}

theorem link {component : ComponentDisk} {next : Nat} {rest : List ComponentDisk}
    (isStart : component.offset.toNat = start) (forward : start < next)
    (reaches : Reaches component next) (chain : Chain Reaches next rest finish) :
    Chain Reaches start (component :: rest) finish := by
  subst isStart
  exact .cons forward reaches chain

theorem append (first : Chain Reaches start front middle)
    (second : Chain Reaches middle back finish) :
    Chain Reaches start (front ++ back) finish := by
  induction first with
  | nil start => exact second
  | cons forward reaches chain induction => exact .cons forward reaches (induction second)

theorem start_le {components : List ComponentDisk}
    (chain : Chain Reaches start components finish) : start ≤ finish := by
  induction chain with
  | nil start => exact Nat.le_refl _
  | cons forward reaches chain induction => omega

end Chain

/-- The bytes that each component backs: those up to the offset of the next one. -/
def extents : List ComponentDisk → (finish : Nat) → List (Nat × Nat)
  | [], _ => []
  | [component], finish => [(component.offset.toNat, finish)]
  | component :: next :: rest, finish =>
      (component.offset.toNat, next.offset.toNat) :: extents (next :: rest) finish

def backers (components : List ComponentDisk) (finish position : Nat) : Nat :=
  (extents components finish).countP fun extent =>
    extent.1 ≤ position ∧ position < extent.2

theorem Chain.backers_eq {Reaches : ComponentDisk → Nat → Prop} {start finish : Nat}
    {components : List ComponentDisk} (chain : Chain Reaches start components finish)
    (position : Nat) :
    backers components finish position =
      if start ≤ position ∧ position < finish then 1 else 0 := by
  induction chain with
  | nil start =>
      rw [if_neg (by omega)]
      rfl
  | @cons component rest next finish forward reaches chain induction =>
      have order := chain.start_le
      cases chain with
      | nil =>
          simp only [backers, extents, List.countP_singleton, decide_eq_true_eq]
      | @cons second rest after _ forwardSecond _ _ =>
          have split : backers (component :: second :: rest) finish position =
              backers (second :: rest) finish position +
                if component.offset.toNat ≤ position ∧ position < second.offset.toNat then 1
                else 0 := by
            simp only [backers, extents, List.countP_cons, decide_eq_true_eq]
          rw [split, induction]
          split <;> split <;> split <;> omega

/-! ## The components of a builder -/

theorem allPartitionComponents_eq (builder : CompositeDiskBuilder)
    {partitions : List PartitionInfo}
    (sized : ∀ partition ∈ partitions,
      expandedStorageSize host files partition.source.imageFilePath = .ok partition.size) :
    builder.allPartitionComponents host files partitions =
      .ok (partitions.flatMap builder.partitionComponents) := by
  induction partitions with
  | nil => rfl
  | cons partition rest induction =>
      have later := induction fun other member =>
        sized other (List.mem_cons_of_mem partition member)
      simp only [CompositeDiskBuilder.allPartitionComponents,
        sized partition List.mem_cons_self, later]
      simp only [bind, Except.bind, decide_true, cfExpect_true, List.flatMap_cons]
      rfl

section Lengths

variable {length : ComponentFile → Nat}

theorem chain_partitionComponents (builder : CompositeDiskBuilder) {partition : PartitionInfo}
    (isLength : length (.image partition.source.imageFilePath) = partition.size.toNat)
    (headerLength : length .header = 20480)
    (size : partition.alignedSize.toNat = roundUp partition.size.toNat)
    (bound : partition.offset.toNat + roundUp partition.size.toNat < 18446744073709551616)
    (nonempty : partition.size ≠ 0) :
    Chain (Fills length) partition.offset.toNat (builder.partitionComponents partition)
      (partition.offset.toNat + roundUp partition.size.toNat) := by
  have someSize : 0 < partition.size.toNat := by
    rw [Nat.pos_iff_ne_zero]
    exact fun isZero => nonempty (UInt64.toNat_inj.mp isZero)
  have larger := le_roundUp partition.size.toNat
  have gap : roundUp partition.size.toNat < partition.size.toNat + 4096 := by
    rw [roundUp]
    omega
  have image : ∀ readWriteCapability, Fills length
      { file := .image partition.source.imageFilePath, offset := partition.offset,
        readWriteCapability } (partition.offset.toNat + partition.size.toNat) := by
    intro readWriteCapability
    left
    change _ + length _ = _
    rw [isLength]
  rw [CompositeDiskBuilder.partitionComponents]
  by_cases aligned : partition.alignedSize = partition.size
  · have exact_ : roundUp partition.size.toNat = partition.size.toNat := by
      rw [← size, aligned]
    simp only [aligned, ne_eq, not_true_eq_false, if_false, exact_]
    exact .link rfl (Nat.lt_add_of_pos_right someSize) (image _) (.nil _)
  · have fillerOffset : (partition.offset + partition.size).toNat =
        partition.offset.toNat + partition.size.toNat := by
      rw [UInt64.toNat_add]
      exact Nat.mod_eq_of_lt (by omega)
    have different : roundUp partition.size.toNat ≠ partition.size.toNat := by
      intro same
      exact aligned (UInt64.toNat_inj.mp (size.trans same))
    have filler : ComponentDisk.IsFiller
        { file := .header, offset := partition.offset + partition.size } := by
      refine ⟨rfl, ?_⟩
      intro isZero
      have zero := congrArg UInt64.toNat isZero
      change (partition.offset + partition.size).toNat = 0 at zero
      omega
    have fills : Fills length { file := .header, offset := partition.offset + partition.size }
        (partition.offset.toNat + roundUp partition.size.toNat) := by
      refine .inr ⟨filler, ?_⟩
      dsimp only
      rw [fillerOffset, headerLength]
      omega
    have tail : Chain (Fills length) (partition.offset.toNat + partition.size.toNat)
        [{ file := .header, offset := partition.offset + partition.size }]
        (partition.offset.toNat + roundUp partition.size.toNat) :=
      .link fillerOffset (by omega) fills (.nil _)
    simp only [aligned, ne_eq, not_false_eq_true, if_true]
    exact .link rfl (Nat.lt_add_of_pos_right someSize) (image _) tail

theorem Placed.chain (builder : CompositeDiskBuilder) {start finish : Nat}
    {partitions : List PartitionInfo} (placed : Placed start partitions finish)
    (lengths : ∀ partition ∈ partitions,
      length (.image partition.source.imageFilePath) = partition.size.toNat)
    (headerLength : length .header = 20480)
    (nonempty : ∀ partition ∈ partitions, partition.size ≠ 0) :
    Chain (Fills length) start (partitions.flatMap builder.partitionComponents) finish := by
  induction placed with
  | nil start => exact .nil start
  | @cons partition rest finish size bound placed induction =>
      have first := chain_partitionComponents builder (lengths partition List.mem_cons_self)
        headerLength size bound (nonempty partition List.mem_cons_self)
      have later := induction
        (fun other member => lengths other (List.mem_cons_of_mem partition member))
        (fun other member => nonempty other (List.mem_cons_of_mem partition member))
      exact first.append later

end Lengths

theorem fileLength_image {path : Path} {size : UInt64}
    (sized : expandedStorageSize host files path = .ok size) (beginning : GptBeginning)
    (gptEnd : GptEnd) :
    fileLength host files beginning gptEnd (.image path) = size.toNat := by
  simp only [fileLength, sized]

theorem Layout.fileLength_footer (layout : Layout builder) (files : FileSystem)
    {beginning : GptBeginning} (made : builder.beginning host = .ok beginning) :
    builder.nextDiskOffset.toNat +
        fileLength host files beginning (builder.gptEnd host beginning) .footer =
      builder.diskSize.toNat := by
  have order := layout.next_le_diskSize
  rw [fileLength, footerBytes, List.length_append, Bytes.length_zeros, GptEnd.length_encode,
    layout.endPadding made]
  omega

/-- The components of a composite disk lie one behind the other from 0 to its size, the
file of each reaches the next one, and exactly so unless it is the header that fills a
gap. -/
theorem composite_disk_covered (host : Host) (files : FileSystem) (readOnly : Bool)
    (sources : List ImagePartition) {builder : CompositeDiskBuilder}
    (appended : sources.foldl (CompositeDiskBuilder.appendPartitionUnchecked host files)
      (.new readOnly) = builder)
    (few : builder.partitions.length ≤ gptNumPartitions)
    (nonempty : ∀ partition ∈ builder.partitions, partition.size ≠ 0)
    (fits : Fits builder.partitions)
    (known : ∀ partition ∈ builder.partitions, ∃ guid,
      getPartitionGuid partition.source.type = .ok guid) :
    ∃ beginning spec, builder.beginning host = .ok beginning ∧
      builder.makeCompositeDiskSpec host files = .ok spec ∧ spec.length = builder.diskSize ∧
      Chain (Fills (fileLength host files beginning (builder.gptEnd host beginning))) 0
        spec.componentDisks builder.diskSize.toNat ∧
      ∀ position, position < builder.diskSize.toNat →
        backers spec.componentDisks builder.diskSize.toNat position = 1 := by
  have built : Built host files builder :=
    appended ▸ (built_new host files readOnly).appendAll sources
  have layout := built.layout fits
  have order := layout.next_le_diskSize
  have begins : ∃ beginning, builder.beginning host = .ok beginning := by
    rcases beginning_of_known host few known with ⟨used, -, began⟩
    exact ⟨_, began⟩
  rcases begins with ⟨beginning, began⟩
  let length := fileLength host files beginning (builder.gptEnd host beginning)
  have headerLength : length .header = 20480 := beginning.length_encode
  have first : Chain (Fills length) 0 [{ file := .header, offset := 0 }] 20480 :=
    .link rfl (by decide) (Or.inl (by change 0 + length .header = _; rw [headerLength]))
      (.nil _)
  have images := layout.placed.chain builder
    (fun partition member => fileLength_image (built.sized partition member) beginning _)
    headerLength nonempty
  have last : Chain (Fills length) builder.nextDiskOffset.toNat
      [{ file := .footer, offset := builder.nextDiskOffset }] builder.diskSize.toNat :=
    .link rfl (by omega) (Or.inl (layout.fileLength_footer files began)) (.nil _)
  have chain := first.append (images.append last)
  refine ⟨beginning, { version := 2, componentDisks := _, length := builder.diskSize }, began,
    ?_, rfl, chain, ?_⟩
  · simp only [CompositeDiskBuilder.makeCompositeDiskSpec,
      allPartitionComponents_eq builder built.sized]
    rfl
  · intro position inside
    rw [chain.backers_eq, if_pos ⟨Nat.zero_le _, inside⟩]

theorem composite_disk_covered_one_byte :
    ∃ beginning spec, oneByteBuilder.beginning sampleHost = .ok beginning ∧
      oneByteBuilder.makeCompositeDiskSpec sampleHost (sampleFiles 1) = .ok spec ∧
      spec.length = oneByteBuilder.diskSize ∧
      Chain (Fills (fileLength sampleHost (sampleFiles 1) beginning
        (oneByteBuilder.gptEnd sampleHost beginning))) 0 spec.componentDisks
        oneByteBuilder.diskSize.toNat ∧
      ∀ position, position < oneByteBuilder.diskSize.toNat →
        backers spec.componentDisks oneByteBuilder.diskSize.toNat position = 1 :=
  composite_disk_covered sampleHost (sampleFiles 1) true [samplePartition]
    appended_oneByteBuilder (by decide) (by decide) (by decide) known_oneByteBuilder

/-! ## Components that are not exact -/

theorem Chain.second {Reaches : ComponentDisk → Nat → Prop} {start finish : Nat}
    {first second : ComponentDisk} {rest : List ComponentDisk}
    (chain : Chain Reaches start (first :: second :: rest) finish) :
    first.offset.toNat < second.offset.toNat ∧ Reaches first second.offset.toNat ∧
      Chain Reaches second.offset.toNat (second :: rest) finish := by
  cases chain with
  | cons forward reaches chain =>
      cases chain with
      | cons forwardSecond reachesSecond rest =>
          exact ⟨forward, reaches, .cons forwardSecond reachesSecond rest⟩

def hugeImage : Bytes :=
  qcow2Magic ++ Bytes.zeros 20 ++ [255, 255, 255, 255, 255, 255, 240, 0] ++ Bytes.zeros 40

def hugeFiles : FileSystem where
  content path := if path = "/images/super.img" then some hugeImage else none

def hugeBuilder : CompositeDiskBuilder where
  partitions := [{ source := samplePartition, size := 18446744073709547520, offset := 20480 }]
  nextDiskOffset := 16384
  readOnly := true

example :
    [samplePartition].foldl
        (CompositeDiskBuilder.appendPartitionUnchecked sampleHost hugeFiles) (.new true) =
      hugeBuilder := rfl

theorem known_hugeBuilder : ∀ partition ∈ hugeBuilder.partitions, ∃ guid,
    getPartitionGuid partition.source.type = .ok guid := by
  intro partition member
  rw [List.mem_singleton.mp member]
  exact ⟨linuxFileSystemGuid, rfl⟩

/-- The file that fills the gap behind an image of one byte is longer than the gap, and
behind an image of a huge size the offsets start again at the beginning. -/
theorem components_not_exact :
    (∃ beginning spec, oneByteBuilder.beginning sampleHost = .ok beginning ∧
      oneByteBuilder.makeCompositeDiskSpec sampleHost (sampleFiles 1) = .ok spec ∧
      ¬ Chain (EndsAt (fileLength sampleHost (sampleFiles 1) beginning
        (oneByteBuilder.gptEnd sampleHost beginning))) 0 spec.componentDisks
        oneByteBuilder.diskSize.toNat) ∧
    (∃ beginning spec, hugeBuilder.beginning sampleHost = .ok beginning ∧
      hugeBuilder.makeCompositeDiskSpec sampleHost hugeFiles = .ok spec ∧
      ¬ Chain (EndsAt (fileLength sampleHost hugeFiles beginning
        (hugeBuilder.gptEnd sampleHost beginning))) 0 spec.componentDisks
        hugeBuilder.diskSize.toNat) := by
  constructor
  · rcases beginning_of_known sampleHost (by decide) known_oneByteBuilder with
      ⟨_, -, began⟩
    refine ⟨_, _, began, rfl, ?_⟩
    intro chain
    have filler := chain.second.2.2.second.2.2.second.2.1
    rw [EndsAt, fileLength, GptBeginning.length_encode] at filler
    exact absurd filler (by decide)
  · rcases beginning_of_known sampleHost (by decide) known_hugeBuilder with
      ⟨_, -, began⟩
    refine ⟨_, _, began, rfl, ?_⟩
    intro chain
    exact absurd chain.second.2.2.second.1 (by decide)

end Cuttlefish.ImageAggregator
