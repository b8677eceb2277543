import Cuttlefish.Foundation.Decimal
import Cuttlefish.Result
import Mathlib.Logic.Function.Basic

/-! # Misc info of a target files archive

`misc_info.cc`: the maps of a vendor and a system build are merged, and the arguments for the
vbmeta image are taken from the result. -/

namespace Cuttlefish.AssembleCvd

abbrev MiscInfo := Text → Option Text

namespace MiscInfo

def rollbackIndexSuffix : Text := "_rollback_index_location".toList

def nonPartitionKeysToMerge : List Text :=
  ["ab_update".toList, "default_system_dev_certificate".toList]

def vbmetaPartitions : List Text :=
  ["boot".toList, "init_boot".toList, "odm".toList, "odm_dlkm".toList, "vbmeta_system".toList,
    "vbmeta_system_dlkm".toList, "vbmeta_vendor_dlkm".toList, "vendor".toList,
    "vendor_boot".toList]

def avbKey (name suffix : Text) : Text := "avb_".toList ++ name ++ suffix

def rollbackKey (name : Text) : Text := avbKey name rollbackIndexSuffix

def keyPathKey (name : Text) : Text := avbKey name "_key_path".toList

def generatePartitionKeys (name : Text) : List Text :=
  [avbKey name [], avbKey name "_algorithm".toList, keyPathKey name, rollbackKey name,
    avbKey name "_hashtree_enable".toList, avbKey name "_add_hashtree_footer_args".toList,
    name ++ "_disable_sparse".toList, "building_".toList ++ name ++ "_image".toList,
    if name = "system".toList then "fs_type".toList else name ++ "_fs_type".toList]

/-- The `while` loop, which has found a free index when all used ones have been tried. -/
def firstFree (usedIndices : List Int) : (fuel : Nat) → Int → Option Int
  | 0, _ => none
  | fuel + 1, index =>
      if index ∈ usedIndices then firstFree usedIndices fuel (index + 1) else some index

def resolveRollbackIndexConflicts (simpleAtoi : Text → Option Int) (indexString : Text)
    (usedIndices : List Int) : Result Int :=
  match simpleAtoi indexString with
  | none => .error (.err "Unable to parse value")
  | some index =>
      match firstFree usedIndices (usedIndices.length + 1) index with
      | some free =>
          if Decimal.FitsInt free then .ok free else .error (.abort "signed integer overflow")
      | none => .error (.abort "no free index")

def getExpected (miscInfo : MiscInfo) (key : Text) : Result Text :=
  match miscInfo key with
  | some value => .ok value
  | none => .error (.err "Unable to retrieve expected value")

def mergeKey (simpleAtoi : Text → Option Int) (systemInfo : MiscInfo)
    (state : MiscInfo × List Int) (key : Text) : Result (MiscInfo × List Int) :=
  match systemInfo key with
  | none => .ok state
  | some systemValue =>
      if rollbackIndexSuffix <:+ key then do
        let index ← resolveRollbackIndexConflicts simpleAtoi systemValue state.2
        return (Function.update state.1 key (some (Decimal.print index)), index :: state.2)
      else .ok (Function.update state.1 key (some systemValue), state.2)

def overriddenBy (result other : MiscInfo) : MiscInfo := fun key => (other key).or (result key)

def only (miscInfo : MiscInfo) (keys : List Text) : MiscInfo := fun key =>
  if key ∈ keys then miscInfo key else none

def mergeMiscInfos (simpleAtoi : Text → Option Int)
    (vendorInfo systemInfo combinedDpInfo : MiscInfo) (systemPartitions : List Text) :
    Result MiscInfo := do
  let (result, _) ← (systemPartitions.flatMap generatePartitionKeys).foldlM
    (mergeKey simpleAtoi systemInfo) (vendorInfo, [])
  return (result.overriddenBy (systemInfo.only nonPartitionKeysToMerge)).overriddenBy combinedDpInfo

/-! ## Arguments for vbmeta -/

/-- The paths of the test keys. -/
structure TestKeys where
  rsa2048 : Text
  rsa4096 : Text

def TestKeys.path (keys : TestKeys) (algorithm : Text) : Result Text :=
  if algorithm = "SHA256_RSA4096".toList then .ok keys.rsa4096
  else if algorithm = "SHA256_RSA2048".toList then .ok keys.rsa2048
  else .error (.err "Unexpected algorithm.  No key available.")

structure ChainPartition where
  name : Text
  rollbackIndex : Text
  keyPath : Text

structure VbmetaArgs where
  algorithm : Text
  keyPath : Text
  chainedPartitions : List ChainPartition
  includedPartitions : List Text
  extraArguments : List Text

def chainPartition (miscInfo : MiscInfo) (pubKeys : TestKeys) (name : Text) :
    Result ChainPartition := do
  let partitionAlgorithm ← getExpected miscInfo (avbKey name "_algorithm".toList)
  let rollbackIndex ← getExpected miscInfo (rollbackKey name)
  let keyPath ← pubKeys.path partitionAlgorithm
  return { name, rollbackIndex, keyPath }

def isChained (miscInfo : MiscInfo) (name : Text) : Bool := (miscInfo (keyPathKey name)).isSome

def words (text : Text) : List Text := (text.splitOn ' ').filter (· ≠ [])

def getVbmetaArgs (miscInfo : MiscInfo) (keys pubKeys : TestKeys) (imagePath : Text) :
    Result VbmetaArgs := do
  cfExpect (miscInfo "avb_vbmeta_key_path".toList).isSome "Contains(misc_info, kAvbVbmetaKeyPath)"
  let algorithm ← getExpected miscInfo "avb_vbmeta_algorithm".toList
  let keyPath ← keys.path algorithm
  let chainedPartitions ←
    (vbmetaPartitions.filter (isChained miscInfo)).mapM (chainPartition miscInfo pubKeys)
  return {
    algorithm, keyPath, chainedPartitions
    includedPartitions := (vbmetaPartitions.filter fun name => !isChained miscInfo name).map
      fun name => imagePath ++ "/IMAGES/".toList ++ name ++ ".img".toList
    extraArguments := ((miscInfo "avb_vbmeta_args".toList).map words).getD [] }

end MiscInfo

end Cuttlefish.AssembleCvd
