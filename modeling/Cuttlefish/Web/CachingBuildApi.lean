import Cuttlefish.Foundation.Run
import Cuttlefish.Zip.CachedZipSource

/-! # The build cache

`CachingBuildApi` of `host/libs/web`: artifacts of builds are kept in a directory, linked from
there to where they are wanted, or read through a file that is loaded lazily. -/

namespace Cuttlefish.Web

open Io Zip

abbrev Path := Fs.Path

structure Build where
  id : String
  target : String
  deriving DecidableEq

structure Artifact where
  build : Build
  name : String
  deriving DecidableEq

/-! ## Files with links -/

inductive Entry
  | whole (artifact : Artifact)
  | part (artifact : Artifact)
  | fragments (artifact : Artifact)
  deriving DecidableEq

/-- Paths are texts: two spellings of one path, such as `a//b` and `a/b`, are two files. -/
structure Disk where
  names : Path → Option Nat
  files : Nat → Bytes
  used : Nat
  directory : Path → Bool
  entry : Path → Option Entry

def dirname (path : Path) : Path :=
  String.ofList ((path.toList.reverse.dropWhile (· ≠ '/')).drop 1).reverse

namespace Disk

variable (disk : Disk)

def lookup (path : Path) : Option Nat := if path = "" then none else disk.names path

def content (path : Path) : Option Bytes := (disk.lookup path).map disk.files

def bind (path : Path) (inode : Option Nat) (entry : Option Entry) : Disk :=
  { disk with
    names := fun other => if other = path then inode else disk.names other
    entry := fun other => if other = path then entry else disk.entry other }

def create (path : Path) (content : Bytes) (entry : Entry) : Disk :=
  { disk.bind path (some disk.used) (some entry) with
    files := fun inode => if inode = disk.used then content else disk.files inode
    used := disk.used + 1 }

def overwrite (path : Path) (content : Bytes) : Disk :=
  { disk with
    files := fun inode => if disk.names path = some inode then content else disk.files inode }

/-- `EnsureDirectoryExists`, with the directories above. -/
def ensureDirectoryExists (path : Path) : Disk :=
  { disk with
    directory := fun other =>
      disk.directory other || other = path || (other ++ "/").toList.isPrefixOf path.toList }

def createHardLink (target hardlink : Path) (overwriteExisting : Bool) :
    Option Path × Disk :=
  match disk.lookup hardlink, disk.lookup target with
  | some linked, some inode =>
      if inode = linked then (some hardlink, disk)
      else if overwriteExisting = false then (none, disk)
      else (some hardlink, disk.bind hardlink (some inode) (disk.entry target))
  | none, some inode => (some hardlink, disk.bind hardlink (some inode) (disk.entry target))
  | _, none => (none, disk)

end Disk

/-! ## The underlying API -/

/-- The content of every artifact, and a source for what is read remotely. -/
structure BuildApi (State : Type) where
  artifact : Artifact → Option Bytes
  reader : ReaderSeeker State
  serves : ∀ content, Serves reader content
  fileReader : Bytes → State
  valid : ∀ content, (serves content).Valid (fileReader content)
  fits : ∀ artifact_ content, artifact artifact_ = some content → content.length ≤ Fs.maxFileSize

def constructTargetFilepath (directory filename : String) : Path := directory ++ "/" ++ filename

namespace BuildApi

variable {State : Type} (api : BuildApi State)

/-- `DownloadFile` when the build server can be reached, or not. -/
def downloadFile (reachable : Bool) (disk : Disk) (build : Build)
    (targetDirectory artifactName : String) : Option Path × Disk :=
  let path := constructTargetFilepath targetDirectory artifactName
  match api.artifact ⟨build, artifactName⟩ with
  | some content =>
      if reachable then
        (some path,
          (disk.ensureDirectoryExists (dirname path)).create path content
            (.whole ⟨build, artifactName⟩))
      else (none, disk)
  | none => (none, disk)

def selectedArtifact (build : Build) (artifactName backupArtifactName : String) : String :=
  if (api.artifact ⟨build, artifactName⟩).isSome then artifactName else backupArtifactName

def downloadFileWithBackup (reachable : Bool) (disk : Disk) (build : Build)
    (targetDirectory artifactName backupArtifactName : String) : Option Path × Disk :=
  api.downloadFile reachable disk build targetDirectory
    (api.selectedArtifact build artifactName backupArtifactName)

end BuildApi

/-! ## The cache -/

structure CachingPaths where
  buildCache : Path
  targetArtifact : Path
  cacheArtifact : Path
  targetBackupArtifact : Path
  cacheBackupArtifact : Path

def cachePaths (cacheBase : Path) (build : Build)
    (targetDirectory artifact backupArtifact : String) : CachingPaths :=
  let buildCache := cacheBase ++ "/" ++ build.id ++ "/" ++ build.target
  { buildCache
    targetArtifact := constructTargetFilepath targetDirectory artifact
    cacheArtifact := constructTargetFilepath buildCache artifact
    targetBackupArtifact :=
      if backupArtifact = "" then "" else constructTargetFilepath targetDirectory backupArtifact
    cacheBackupArtifact :=
      if backupArtifact = "" then "" else constructTargetFilepath buildCache backupArtifact }

def constructCachePaths (disk : Disk) (cacheBase : Path) (build : Build)
    (targetDirectory artifact backupArtifact : String) : CachingPaths × Disk :=
  let paths := cachePaths cacheBase build targetDirectory artifact backupArtifact
  let disk := (disk.ensureDirectoryExists paths.buildCache).ensureDirectoryExists
    (dirname paths.targetArtifact)
  (paths,
    if backupArtifact = "" then disk
    else disk.ensureDirectoryExists (dirname paths.targetBackupArtifact))

def kOverwriteExistingFile : Bool := true

def metadataFile (filename : Path) : Path := filename ++ ".frag_data"

structure SourceUse where
  create : MetadataIo
  contents : ContentsIo
  calls : List SourceCall
  destroy : MetadataIo
  opens : LazilyLoadedFile.MetadataIo.Opens create
  reliable : contents.Reliable

def SourceCall.inside (size : Nat) : SourceCall → Bool
  | .setOffset offset => offset ≤ size
  | _ => true

namespace CachingBuildApi

variable {State : Type} (api : BuildApi State) (cacheBasePath : Path)

def downloadFile (reachable : Bool) (disk : Disk) (build : Build)
    (targetDirectory artifactName : String) : Option Path × Disk :=
  let (paths, disk) :=
    constructCachePaths disk cacheBasePath build targetDirectory artifactName ""
  let (cached, disk) :=
    if (disk.lookup paths.cacheArtifact).isSome then (some paths.cacheArtifact, disk)
    else api.downloadFile reachable disk build paths.buildCache artifactName
  match cached with
  | none => (none, disk)
  | some _ => disk.createHardLink paths.cacheArtifact paths.targetArtifact kOverwriteExistingFile

def downloadFileWithBackup (reachable : Bool) (disk : Disk) (build : Build)
    (targetDirectory artifactName backupArtifactName : String) : Option Path × Disk :=
  let (paths, disk) :=
    constructCachePaths disk cacheBasePath build targetDirectory artifactName backupArtifactName
  if (disk.lookup paths.cacheArtifact).isSome then
    disk.createHardLink paths.cacheArtifact paths.targetArtifact kOverwriteExistingFile
  else if (disk.lookup paths.cacheBackupArtifact).isSome then
    disk.createHardLink paths.cacheBackupArtifact paths.targetBackupArtifact
      kOverwriteExistingFile
  else
    match api.downloadFileWithBackup reachable disk build paths.buildCache artifactName
        backupArtifactName with
    | (none, disk) => (none, disk)
    | (some artifactFilepath, disk) =>
        if artifactName.toList.isSuffixOf artifactFilepath.toList then
          disk.createHardLink paths.cacheArtifact paths.targetArtifact kOverwriteExistingFile
        else
          disk.createHardLink paths.cacheBackupArtifact paths.targetBackupArtifact false

def sourcePath (artifactName : String) : Path := cacheBasePath ++ "/" ++ artifactName

/-- `LazilyLoadedFile::Create` opens both files. A file of the cache that exists keeps what it
was. -/
def openFile (disk : Disk) (directory path : Path) (entry : Entry) : Option Disk :=
  if (disk.lookup path).isSome then some disk
  else if disk.directory directory then some (disk.create path [] entry)
  else none

/-- `CacheZipSource` over the source of the artifact: the source that is returned, and the
files that were opened. -/
def fileReader (io : MetadataIo) (reachable : Bool) (disk : Disk) (build : Build)
    (artifactName : String) : Option (CachedZipSource State) × Disk :=
  match api.artifact ⟨build, artifactName⟩ with
  | none => (none, disk)
  | some content =>
      if reachable = false then (none, disk)
      else
        let path := sourcePath cacheBasePath artifactName
        let directory := dirname path
        let opened := (openFile disk directory path (.part ⟨build, artifactName⟩)).bind fun disk =>
          openFile disk directory (metadataFile path) (.fragments ⟨build, artifactName⟩)
        match opened with
        | none => (none, disk)
        | some disk =>
            match LazilyLoadedFile.create DisjointRangeList.wire io
                ((disk.content path).getD []) ((disk.content (metadataFile path)).getD [])
                content.length (api.fileReader content) with
            | .error _ => (none, disk)
            | .ok file => (some ⟨file, 0, content.length⟩, disk)

def useSource (disk : Disk) (path : Path) (artifact : Artifact) (use : SourceUse)
    (source : CachedZipSource State) : Option (List FileAnswer) × Disk :=
  match Refinement.perform (SourceCall.make (CachedZipSource.callbacks api.reader use.contents))
      source use.calls with
  | none => (none, disk)
  | some (answers, final) =>
      (some answers,
        (disk.overwrite path final.source.contentsFile.content).create (metadataFile path)
          (final.source.destroy DisjointRangeList.wire use.destroy) (.fragments artifact))

end CachingBuildApi

/-! ## Sequences of calls -/

inductive Request
  | downloadFile (build : Build) (targetDirectory artifactName : String)
  | downloadFileWithBackup (build : Build)
      (targetDirectory artifactName backupArtifactName : String)
  | fileReader (build : Build) (artifactName : String) (use : SourceUse)

structure Call where
  request : Request
  reachable : Bool

inductive Answer
  | error
  | file (path : Path) (content : Option Bytes)
  | source (answers : Option (List FileAnswer))
  deriving DecidableEq

structure Session where
  disk : Disk
  log : List (Call × Answer)

def fileAnswer (returned : Option Path × Disk) : Answer × Disk :=
  match returned with
  | (none, disk) => (.error, disk)
  | (some path, disk) => (.file path (disk.content path), disk)

variable {State : Type} (api : BuildApi State) (cacheBasePath : Path)

def answer (disk : Disk) (call : Call) : Answer × Disk :=
  match call.request with
  | .downloadFile build targetDirectory artifactName =>
      fileAnswer (CachingBuildApi.downloadFile api cacheBasePath call.reachable disk build
        targetDirectory artifactName)
  | .downloadFileWithBackup build targetDirectory artifactName backupArtifactName =>
      fileAnswer (CachingBuildApi.downloadFileWithBackup api cacheBasePath call.reachable disk
        build targetDirectory artifactName backupArtifactName)
  | .fileReader build artifactName use =>
      match CachingBuildApi.fileReader api cacheBasePath use.create call.reachable disk build
          artifactName with
      | (none, disk) => (.error, disk)
      | (some source, disk) =>
          let (answers, disk) := CachingBuildApi.useSource api disk
            (CachingBuildApi.sourcePath cacheBasePath artifactName) ⟨build, artifactName⟩ use source
          (.source answers, disk)

def usable (call : Call) : Bool :=
  match call.request with
  | .fileReader build artifactName use =>
      match api.artifact ⟨build, artifactName⟩ with
      | none => true
      | some content => use.calls.all (SourceCall.inside content.length)
  | _ => true

def step (session : Session) (call : Call) : Option Session :=
  if usable api call then
    let (answer, disk) := answer api cacheBasePath session.disk call
    some ⟨disk, session.log ++ [(call, answer)]⟩
  else none

/-! ## Transparency -/

def RightFile (reachable : Bool) (path : Path) (artifact : Artifact) : Answer → Prop
  | .error => reachable = false ∨ api.artifact artifact = none
  | .file returned content =>
      returned = path ∧ content.isSome = true ∧ content = api.artifact artifact
  | .source _ => False

def RightSource (reachable : Bool) (artifact : Artifact) (calls : List SourceCall) :
    Answer → Prop
  | .error => reachable = false ∨ api.artifact artifact = none
  | .file _ _ => False
  | .source answers =>
      ∃ content given last, api.artifact artifact = some content ∧ answers = some given ∧
        Refinement.PermitsAll (fun position call => FileCursor content position call.meaning)
          0 calls given last

/-- The call succeeds if the underlying API would, and what it returns is what the underlying
API would deliver. -/
def Right (call : Call) (answer : Answer) : Prop :=
  match call.request with
  | .downloadFile build targetDirectory artifactName =>
      RightFile api call.reachable (constructTargetFilepath targetDirectory artifactName)
        ⟨build, artifactName⟩ answer
  | .downloadFileWithBackup build targetDirectory artifactName backupArtifactName =>
      let selected := api.selectedArtifact build artifactName backupArtifactName
      RightFile api call.reachable (constructTargetFilepath targetDirectory selected)
        ⟨build, selected⟩ answer
  | .fileReader build artifactName use =>
      RightSource api call.reachable ⟨build, artifactName⟩ use.calls answer

def Session.Transparent (session : Session) : Prop :=
  ∀ entry ∈ session.log, Right api entry.1 entry.2

/-- If there is a file of that name, it was put there as that artifact. -/
def Disk.Ours (disk : Disk) (path : Path) (artifact : Artifact) : Prop :=
  (disk.lookup path).isSome = true → disk.entry path = some (.whole artifact)

structure BackupInTurn (disk : Disk) (build : Build)
    (artifactName backupArtifactName : String) (paths : CachingPaths) (reachable : Bool) :
    Prop where
  main : disk.Ours paths.cacheArtifact ⟨build, artifactName⟩
  backup : disk.lookup paths.cacheArtifact = none →
    disk.Ours paths.cacheBackupArtifact ⟨build, backupArtifactName⟩
  notPreferred : disk.lookup paths.cacheArtifact = none →
    (disk.lookup paths.cacheBackupArtifact).isSome = true →
    api.artifact ⟨build, artifactName⟩ = none
  /-- A backup that is downloaded has another ending than the artifact, and nothing is in its
  place. -/
  downloaded : reachable = true → disk.lookup paths.cacheArtifact = none →
    disk.lookup paths.cacheBackupArtifact = none →
    api.artifact ⟨build, artifactName⟩ = none →
    (api.artifact ⟨build, backupArtifactName⟩).isSome = true →
    backupArtifactName ≠ "" ∧
      artifactName.toList.isSuffixOf paths.cacheBackupArtifact.toList = false ∧
      (disk.lookup paths.targetBackupArtifact = none ∨
        paths.targetBackupArtifact = paths.cacheBackupArtifact)

/-- No call meets at its cache paths what was put there as something else. -/
def InTurn (session : Session) (call : Call) : Prop :=
  let disk := session.disk
  match call.request with
  | .downloadFile build targetDirectory artifactName =>
      disk.Ours (cachePaths cacheBasePath build targetDirectory artifactName "").cacheArtifact
        ⟨build, artifactName⟩
  | .downloadFileWithBackup build targetDirectory artifactName backupArtifactName =>
      BackupInTurn api disk build artifactName backupArtifactName
        (cachePaths cacheBasePath build targetDirectory artifactName backupArtifactName)
        call.reachable
  | .fileReader build artifactName _ =>
      call.reachable = true → (api.artifact ⟨build, artifactName⟩).isSome = true →
        let path := CachingBuildApi.sourcePath cacheBasePath artifactName
        disk.lookup path = none ∧ disk.lookup (metadataFile path) = none ∧
            disk.directory (dirname path) = true ∨
          disk.entry path = some (.part ⟨build, artifactName⟩) ∧
            disk.entry (metadataFile path) = some (.fragments ⟨build, artifactName⟩)

end Cuttlefish.Web
