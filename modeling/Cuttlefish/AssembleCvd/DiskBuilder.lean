import Cuttlefish.Foundation.Action
import Cuttlefish.Foundation.Decimal
import Cuttlefish.Foundation.Run
import Cuttlefish.ImageAggregator.CompositeDiskBuilder

/-! # When a composite disk is rebuilt

`BuildCompositeDiskIfNecessary` of `disk_builder.cpp`: the composite disk is reused if a text with
some of the settings is the same and no partition file is newer. -/

namespace Cuttlefish.AssembleCvd

open Fs ImageAggregator

inductive VmmMode
  | unknown
  | crosvm
  | gem5
  | qemu
  deriving DecidableEq

/-- `format_as`. -/
def VmmMode.format : VmmMode → Text
  | unknown => "unknown".toList
  | crosvm => "crosvm".toList
  | gem5 => "gem5".toList
  | qemu => "qemu_cli".toList

structure DiskBuilder where
  partitions : List ImagePartition
  entireDisk : Text
  headerPath : Text
  footerPath : Text
  vmManager : VmmMode
  configPath : Text
  compositeDiskPath : Text
  resumeIfPossible : Bool
  readOnly : Bool

/-! ## Files -/

structure PartitionFile where
  content : Bytes
  modified : Nat

/-- What a build was made from. `AggregateImage` does not look at the read-only setting. -/
structure BuildInputs where
  vmManager : VmmMode
  partitions : List ImagePartition
  readOnly : Option Bool
  contents : List (Path × Option Bytes)

structure CompositeDiskFile where
  builtFrom : Option BuildInputs
  modified : Nat

structure BuilderFiles where
  partitionFiles : Path → Option PartitionFile
  config : Option Text
  composite : Option CompositeDiskFile

def fileModificationTime (modified : Nat) : Nat := modified / 1000000000

def isFrp (partition : ImagePartition) : Bool := partition.label = [102, 114, 112]

def otherThanFrp (partitions : List ImagePartition) : List ImagePartition :=
  partitions.filter fun partition => !isFrp partition

def partitionModificationTime (files : BuilderFiles) (path : Path) : Nat :=
  ((files.partitionFiles path).map fun file => fileModificationTime file.modified).getD 0

def lastUpdatedFrom (files : BuilderFiles) : List ImagePartition → Nat → Nat
  | [], ret => ret
  | partition :: partitions, ret =>
      if isFrp partition then lastUpdatedFrom files partitions ret
      else
        let partitionModTime := partitionModificationTime files partition.imageFilePath
        lastUpdatedFrom files partitions (if partitionModTime > ret then partitionModTime else ret)

def lastUpdatedInputDisk (files : BuilderFiles) (partitions : List ImagePartition) : Nat :=
  lastUpdatedFrom files partitions 0

/-! ## The builder -/

namespace DiskBuilder

variable (builder : DiskBuilder)

def textConfig : Result Text := do
  cfExpect (builder.vmManager ≠ .unknown) "Missing vm_manager"
  cfExpect (!builder.partitions.isEmpty ^^ !builder.entireDisk.isEmpty)
    "Specify either partitions or a whole disk"
  return builder.vmManager.format ++ ['\n'] ++
    (builder.partitions.flatMap fun partition => partition.imageFilePath.toList ++ ['\n']) ++
    builder.entireDisk

def willRebuildForTimes (files : BuilderFiles) : Result Bool := do
  cfExpect (!builder.partitions.isEmpty ^^ !builder.entireDisk.isEmpty)
    "Specify either partitions or a whole disk"
  if builder.entireDisk ≠ [] then return false
  else
    let lastComponentModTime := lastUpdatedInputDisk files builder.partitions
    cfExpect (!builder.compositeDiskPath.isEmpty) "No composite disk path"
    let compositeModTime :=
      (files.composite.map fun file => fileModificationTime file.modified).getD 0
    return compositeModTime = 0 || lastComponentModTime > compositeModTime

def willRebuildCompositeDisk (files : BuilderFiles) : Result Bool :=
  if !builder.resumeIfPossible then .ok true
  else do
    cfExpect (!builder.configPath.isEmpty) "No config path"
    let text ← builder.textConfig
    if files.config.getD [] ≠ text then return true
    else builder.willRebuildForTimes files

def buildInputs (files : BuilderFiles) : BuildInputs where
  vmManager := builder.vmManager
  partitions := builder.partitions
  readOnly := if builder.vmManager = .crosvm then some builder.readOnly else none
  contents := (otherThanFrp builder.partitions).map fun partition =>
    (partition.imageFilePath, (files.partitionFiles partition.imageFilePath).map (·.content))

end DiskBuilder

inductive BuildOutcome
  | written
  | unchanged
  | failedBefore
  | failedWriting

inductive ConfigOutcome
  | written
  | notOpened
  | notWritten

namespace DiskBuilder

variable (builder : DiskBuilder)

def buildComposite (now : Nat) (outcome : BuildOutcome) : Action BuilderFiles Unit := fun files =>
  let inputs := builder.buildInputs files
  match outcome, files.composite with
  | .failedBefore, _ => (.error (.err "CreateOrUpdateCompositeDisk"), files)
  | .failedWriting, _ =>
      (.error (.err "CreateOrUpdateCompositeDisk"), { files with composite := some ⟨none, now⟩ })
  | .unchanged, some composite =>
      (.ok (), { files with composite := some ⟨some inputs,
        if builder.vmManager = .crosvm then composite.modified else now⟩ })
  | _, _ => (.ok (), { files with composite := some ⟨some inputs, now⟩ })

def writeConfig (outcome : ConfigOutcome) (text : Text) : Action BuilderFiles Unit := fun files =>
  match outcome with
  | .written => (.ok (), { files with config := some text })
  | .notOpened => (.error (.err "WriteStringToFile"), files)
  | .notWritten => (.error (.err "WriteStringToFile"), { files with config := none })

def rebuild (now : Nat) (outcome : BuildOutcome) (configOutcome : ConfigOutcome) :
    Action BuilderFiles Bool := do
  Action.expect (builder.vmManager ≠ .unknown) "vm_manager_ != VmmMode::kUnknown"
  Action.expect (builder.vmManager ≠ .crosvm || !builder.headerPath.isEmpty) "No header path"
  Action.expect (builder.vmManager ≠ .crosvm || !builder.footerPath.isEmpty) "No footer path"
  builder.buildComposite now outcome
  let text ← Action.ofResult builder.textConfig
  writeConfig configOutcome text
  return true

def buildCompositeDiskIfNecessary (now : Nat) (outcome : BuildOutcome)
    (configOutcome : ConfigOutcome) : Action BuilderFiles Bool := do
  let files ← Action.get
  if builder.entireDisk ≠ [] then return false
  else
    let necessary ← Action.ofResult (builder.willRebuildCompositeDisk files)
    if !necessary then return false else builder.rebuild now outcome configOutcome

end DiskBuilder

/-! ## Histories -/

structure DiskSession where
  now : Nat
  builder : DiskBuilder
  files : BuilderFiles
  reused : Bool

inductive DiskEvent
  | pass (duration : Nat)
  | update (path : Path) (file : PartitionFile)
  | configure (partitions : List ImagePartition) (readOnly : Bool) (vmManager : VmmMode)
  | call (resume : Bool) (outcome : BuildOutcome) (configOutcome : ConfigOutcome)

def DiskBuilder.configure (builder : DiskBuilder) (partitions : List ImagePartition)
    (readOnly : Bool) (vmManager : VmmMode) : DiskBuilder :=
  { builder with partitions, readOnly, vmManager }

def BuilderFiles.update (files : BuilderFiles) (path : Path) (file : PartitionFile) : BuilderFiles :=
  { files with partitionFiles := Function.update files.partitionFiles path (some file) }

def DiskSession.step (session : DiskSession) : DiskEvent → Option DiskSession
  | .pass duration => some { session with now := session.now + duration, reused := false }
  | .update path file =>
      if session.now ≤ file.modified then
        some { session with files := session.files.update path file, reused := false }
      else none
  | .configure partitions readOnly vmManager =>
      some { session with
        builder := session.builder.configure partitions readOnly vmManager, reused := false }
  | .call resume outcome configOutcome =>
      let builder := { session.builder with resumeIfPossible := resume }
      let (result, files) :=
        builder.buildCompositeDiskIfNecessary session.now outcome configOutcome session.files
      some { session with builder, files, reused := resume && result = .ok false }

end Cuttlefish.AssembleCvd
