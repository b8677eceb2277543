import Cuttlefish.Utils.GeneratedFlag
import Cuttlefish.Web.AndroidBuildString

/-! # The flags of a fetch

`fetch_config_parser.cpp` of `host/commands/cvd/cli/parser`: the flags for `cvd fetch` from an
environment specification, and the vector flags that read them. -/

namespace Cuttlefish.CliParser

open FlagParser Web

structure Boot where
  kernelBuild : Text
  build : Text
  bootloaderBuild : Text
  androidEfiLoaderBuild : Text
  deriving DecidableEq

structure Disk where
  defaultBuild : Text
  superPartitionSystem : Text
  otatools : Text
  downloadImgZip : Option Bool
  downloadTargetFilesZip : Option Bool
  deriving DecidableEq

/-- The parts of an instance that fetching reads. -/
structure Instance where
  boot : Boot
  disk : Disk
  deriving DecidableEq

structure Fetch where
  apiKey : Option Text
  credentialSource : Option Text
  waitRetryPeriodSeconds : Option Nat
  keepDownloadedArchives : Option Bool
  apiBaseUrl : Option Text
  projectId : Option Text
  deriving DecidableEq

structure EnvironmentSpecification where
  instances : List Instance
  hostPackage : Text
  fetch : Fetch
  deriving DecidableEq

def kFetchPrefix : Text := "@ab/".toList

def kDefaultDownloadImgZip : Bool := true

def kDefaultDownloadTargetFilesZip : Bool := false

def shouldFetch (config : Instance) : Bool :=
  [config.disk.defaultBuild, config.disk.superPartitionSystem, config.boot.kernelBuild,
    config.boot.kernelBuild, config.boot.build, config.boot.bootloaderBuild,
    config.disk.otatools].any fun value => !value.isEmpty

def getFetchBuildString (strVal : Text) : Result Text :=
  if kFetchPrefix.isPrefixOf strVal then
    let view := strVal.drop kFetchPrefix.length
    if view = [] then
      .error (.err (quoted kFetchPrefix ++ " prefixed build string was not followed by a value"))
    else .ok view
  else .ok []

def removeNonPrefixedBuildStrings (config : Instance) : Result Instance := do
  let defaultBuild ← getFetchBuildString config.disk.defaultBuild
  let otatools ← getFetchBuildString config.disk.otatools
  let superPartitionSystem ← getFetchBuildString config.disk.superPartitionSystem
  let build ← getFetchBuildString config.boot.build
  let kernelBuild ← getFetchBuildString config.boot.kernelBuild
  let bootloaderBuild ← getFetchBuildString config.boot.bootloaderBuild
  let androidEfiLoaderBuild ← getFetchBuildString config.boot.androidEfiLoaderBuild
  return {
    boot := { kernelBuild, build, bootloaderBuild, androidEfiLoaderBuild }
    disk := { config.disk with defaultBuild, superPartitionSystem, otatools } }

def defaultBuild (config : Instance) : Text := config.disk.defaultBuild

def systemBuild (config : Instance) : Text := config.disk.superPartitionSystem

def kernelBuild (config : Instance) : Text := config.boot.kernelBuild

def bootBuild (config : Instance) : Text := config.boot.build

def bootloaderBuild (config : Instance) : Text := config.boot.bootloaderBuild

def androidEfiLoaderBuild (config : Instance) : Text := config.boot.androidEfiLoaderBuild

def otaToolsBuild (config : Instance) : Text := config.disk.otatools

def printBool (value : Bool) : Text := if value then "true".toList else "false".toList

def downloadImgZip (config : Instance) : Text :=
  printBool (config.disk.downloadImgZip.getD kDefaultDownloadImgZip)

def downloadTargetFilesZip (config : Instance) : Text :=
  printBool (config.disk.downloadTargetFilesZip.getD kDefaultDownloadTargetFilesZip)

def joined (collection : List Text) : Text := [','].intercalate collection

def generateVecFlag (name : Text) (collection : List Text) : Text :=
  generateFlag name (joined collection)

def generateInstanceFlag (name : Text) (instances : List Instance) (callback : Instance → Text) :
    Text :=
  generateVecFlag name (instances.map callback)

def fetchInstances : List (Instance × Text) → Result (List (Instance × Text))
  | [] => .ok []
  | (config, targetSubdirectory) :: rest => do
      let prefixFiltered ← removeNonPrefixedBuildStrings config
      let others ← fetchInstances rest
      return if shouldFetch prefixFiltered then (prefixFiltered, targetSubdirectory) :: others
        else others

def fetchFlags (fetchConfig : Fetch) (targetDirectory hostPackageBuild : Text) :
    List (Text × Text) :=
  [("target_directory".toList, targetDirectory)] ++
  (fetchConfig.apiKey.map fun value => ("api_key".toList, value)).toList ++
  (fetchConfig.credentialSource.map fun value => ("credential_source".toList, value)).toList ++
  (fetchConfig.projectId.map fun value => ("project_id".toList, value)).toList ++
  (fetchConfig.waitRetryPeriodSeconds.map fun (value : Nat) =>
    ("wait_retry_period".toList, Decimal.print value)).toList ++
  (fetchConfig.keepDownloadedArchives.map fun value =>
    ("keep_downloaded_archives".toList, printBool value)).toList ++
  (fetchConfig.apiBaseUrl.map fun value => ("api_base_url".toList, value)).toList ++
  [("host_package_build".toList, hostPackageBuild)]

def parseFetchCvdConfigs (config : EnvironmentSpecification) (targetDirectory : Text)
    (targetSubdirectories : List Text) : Result (List Text) := do
  cfExpect (config.instances.length = targetSubdirectories.length)
    "Mismatched sizes between number of subdirectories and number of instances"
  let fetched ← fetchInstances (config.instances.zip targetSubdirectories)
  let hostPackageBuild ← getFetchBuildString config.hostPackage
  if fetched = [] ∧ hostPackageBuild = [] then return []
  let instances := fetched.map (·.1)
  return (fetchFlags config.fetch targetDirectory hostPackageBuild).map
      (fun (name, value) => generateFlag name value) ++
    [generateVecFlag "target_subdirectory".toList (fetched.map (·.2)),
      generateInstanceFlag "default_build".toList instances defaultBuild,
      generateInstanceFlag "system_build".toList instances systemBuild,
      generateInstanceFlag "kernel_build".toList instances kernelBuild,
      generateInstanceFlag "boot_build".toList instances bootBuild,
      generateInstanceFlag "bootloader_build".toList instances bootloaderBuild,
      generateInstanceFlag "android_efi_loader_build".toList instances androidEfiLoaderBuild,
      generateInstanceFlag "otatools_build".toList instances otaToolsBuild,
      generateInstanceFlag "download_img_zip".toList instances downloadImgZip,
      generateInstanceFlag "download_target_files_zip".toList instances downloadTargetFilesZip]

/-! ## The vector flags of `cvd fetch` -/

/-- The vectors that are about subdirectories and builds of devices. -/
structure VectorFlags where
  targetSubdirectory : List Text
  defaultBuild : List (Option BuildString)
  systemBuild : List (Option BuildString)
  kernelBuild : List (Option BuildString)
  bootBuild : List (Option BuildString)
  bootloaderBuild : List (Option BuildString)
  androidEfiLoaderBuild : List (Option BuildString)
  otatoolsBuild : List (Option BuildString)
  deriving DecidableEq

def consume {Element : Type} (flag : Flag (List Element)) (args : List Text) :
    Result (List Element × List Text) :=
  let parsed := flag.parse args []
  match parsed.status with
  | .error failure => .error failure
  | .ok () => .ok (parsed.value, parsed.arguments)

def VectorFlags.parse (args : List Text) : Result VectorFlags := do
  let (targetSubdirectory, args) ← consume (gflagsCompatStrings "target_subdirectory".toList) args
  let (defaultBuild, args) ← consume (gflagsCompatBuildStrings "default_build".toList) args
  let (systemBuild, args) ← consume (gflagsCompatBuildStrings "system_build".toList) args
  let (kernelBuild, args) ← consume (gflagsCompatBuildStrings "kernel_build".toList) args
  let (bootBuild, args) ← consume (gflagsCompatBuildStrings "boot_build".toList) args
  let (bootloaderBuild, args) ← consume (gflagsCompatBuildStrings "bootloader_build".toList) args
  let (androidEfiLoaderBuild, args) ←
    consume (gflagsCompatBuildStrings "android_efi_loader_build".toList) args
  let (otatoolsBuild, _) ← consume (gflagsCompatBuildStrings "otatools_build".toList) args
  return { targetSubdirectory, defaultBuild, systemBuild, kernelBuild, bootBuild,
           bootloaderBuild, androidEfiLoaderBuild, otatoolsBuild }

end Cuttlefish.CliParser
