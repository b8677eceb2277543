import Cuttlefish.Web.CachingBuildApi

/-! # What the build cache keeps

Each name at which the cache has put something still holds it, whatever is fetched later. From
this every call that finds its own at its paths is answered as by the underlying API. -/

namespace Cuttlefish.Web

open Io Zip

variable {State : Type} (api : BuildApi State)

def Loaded (artifact : Artifact) (contents ranges : Bytes) : Prop :=
  ∃ content set, api.artifact artifact = some content ∧
    LazilyLoadedFile.parseMetadata DisjointRangeList.wire ranges = .ok set ∧
    LazilyLoadedFile.Holds content contents set

structure Named (disk : Disk) : Prop where
  bounded : ∀ path inode, disk.names path = some inode → inode < disk.used
  whole : ∀ path artifact, disk.entry path = some (.whole artifact) →
    ∃ inode, disk.names path = some inode ∧ api.artifact artifact = some (disk.files inode)
  part : ∀ path artifact, disk.entry path = some (.part artifact) →
    ∃ inode, disk.names path = some inode ∧ ∀ other, disk.names other = some inode → other = path
  fragments : ∀ path artifact, disk.entry path = some (.fragments artifact) →
    ∃ inode, disk.names path = some inode
structure Kept (disk : Disk) : Prop extends Named api disk where
  loaded : ∀ path artifact inode ranges, disk.entry path = some (.part artifact) →
    disk.entry (metadataFile path) = some (.fragments artifact) →
    disk.names path = some inode → disk.names (metadataFile path) = some ranges →
    Loaded api artifact (disk.files inode) (disk.files ranges)

variable {api} {disk : Disk}

theorem metadataFile_injective {first second : Path}
    (same : metadataFile first = metadataFile second) : first = second := by
  have lists := congrArg String.toList same
  simp only [metadataFile, String.toList_append, List.append_cancel_right_eq] at lists
  exact String.toList_injective lists

theorem metadataFile_ne (path : Path) : metadataFile path ≠ path := by
  intro same
  have lengths := congrArg (fun text => text.toList.length) same
  simp [metadataFile] at lengths

theorem constructTargetFilepath_ne_empty (directory filename : String) :
    constructTargetFilepath directory filename ≠ "" := by
  intro same
  have lengths := congrArg (fun text => text.toList.length) same
  simp [constructTargetFilepath] at lengths

namespace Disk

variable (disk : Disk)

theorem lookup_of_ne {path : Path} (nonempty : path ≠ "") : disk.lookup path = disk.names path :=
  if_neg nonempty

theorem names_of_lookup {path : Path} {inode : Nat} (found : disk.lookup path = some inode) :
    disk.names path = some inode := by
  rw [lookup] at found
  split at found
  · cases found
  · exact found

theorem names_bind_of_ne {path other : Path} (different : other ≠ path) (inode : Option Nat)
    (entry : Option Entry) : (disk.bind path inode entry).names other = disk.names other :=
  if_neg different

theorem entry_bind_of_ne {path other : Path} (different : other ≠ path) (inode : Option Nat)
    (entry : Option Entry) : (disk.bind path inode entry).entry other = disk.entry other :=
  if_neg different

theorem names_bind (path : Path) (inode : Option Nat) (entry : Option Entry) :
    (disk.bind path inode entry).names path = inode := if_pos rfl

theorem names_create_of_ne {path other : Path} (different : other ≠ path) (content : Bytes)
    (entry : Entry) : (disk.create path content entry).names other = disk.names other :=
  if_neg different

theorem entry_create_of_ne {path other : Path} (different : other ≠ path) (content : Bytes)
    (entry : Entry) : (disk.create path content entry).entry other = disk.entry other :=
  if_neg different

theorem names_create (path : Path) (content : Bytes) (entry : Entry) :
    (disk.create path content entry).names path = some disk.used := if_pos rfl

theorem entry_create (path : Path) (content : Bytes) (entry : Entry) :
    (disk.create path content entry).entry path = some entry := if_pos rfl

theorem files_create (path : Path) (content : Bytes) (entry : Entry) :
    (disk.create path content entry).files disk.used = content := if_pos rfl

theorem files_create_of_lt {inode : Nat} (bound : inode < disk.used) (path : Path)
    (content : Bytes) (entry : Entry) :
    (disk.create path content entry).files inode = disk.files inode :=
  if_neg (Nat.ne_of_lt bound)

theorem files_overwrite_of_ne {path : Path} {inode : Nat} (different : disk.names path ≠ some inode)
    (content : Bytes) : (disk.overwrite path content).files inode = disk.files inode :=
  if_neg different

theorem entry_bind (path : Path) (inode : Option Nat) (entry : Option Entry) :
    (disk.bind path inode entry).entry path = entry := if_pos rfl

end Disk

namespace Kept

theorem ensureDirectoryExists (kept : Kept api disk) (path : Path) :
    Kept api (disk.ensureDirectoryExists path) :=
  ⟨⟨kept.bounded, kept.whole, kept.part, kept.fragments⟩, kept.loaded⟩

theorem bind_whole (kept : Kept api disk) {path target : Path} {inode : Nat} {artifact : Artifact}
    (named : disk.names target = some inode)
    (entry : disk.entry target = some (.whole artifact)) :
    Kept api (disk.bind path (some inode) (some (.whole artifact))) := by
  have notPart : ∀ {other part}, disk.entry other = some (.part part) →
      disk.names other ≠ some inode := by
    intro other part isPart same
    rcases kept.part other part isPart with ⟨own, ownName, alone⟩
    rw [same] at ownName
    rw [← alone target (named.trans ownName), entry] at isPart
    cases isPart
  refine ⟨⟨?bounded, ?whole, ?part, ?fragments⟩, ?loaded⟩
  case bounded =>
    intro other number isName
    by_cases same : other = path
    · rw [same, Disk.names_bind] at isName
      exact kept.bounded target number (named.trans isName)
    · rw [Disk.names_bind_of_ne _ same] at isName
      exact kept.bounded other number isName
  case whole =>
    intro other copied isEntry
    by_cases same : other = path
    · rw [same, Disk.entry_bind] at isEntry
      cases isEntry
      rcases kept.whole target artifact entry with ⟨number, isNumber, content⟩
      rw [named] at isNumber
      cases isNumber
      exact ⟨inode, by rw [same, Disk.names_bind], content⟩
    · rw [Disk.entry_bind_of_ne _ same] at isEntry
      rw [Disk.names_bind_of_ne _ same]
      exact kept.whole other copied isEntry
  case part =>
    intro other part isEntry
    by_cases same : other = path
    · rw [same, Disk.entry_bind] at isEntry
      cases isEntry
    · rw [Disk.entry_bind_of_ne _ same] at isEntry
      rcases kept.part other part isEntry with ⟨own, ownName, alone⟩
      refine ⟨own, by rw [Disk.names_bind_of_ne _ same, ownName], fun third isName => ?_⟩
      by_cases isPath : third = path
      · rw [isPath, Disk.names_bind] at isName
        exact absurd (ownName.trans isName.symm) (notPart isEntry)
      · rw [Disk.names_bind_of_ne _ isPath] at isName
        exact alone third isName
  case fragments =>
    intro other part isEntry
    by_cases same : other = path
    · rw [same, Disk.entry_bind] at isEntry
      cases isEntry
    · rw [Disk.entry_bind_of_ne _ same] at isEntry
      rw [Disk.names_bind_of_ne _ same]
      exact kept.fragments other part isEntry
  case loaded =>
    intro other part own ranges isPart isFragments ownName rangesName
    by_cases same : other = path
    · rw [same, Disk.entry_bind] at isPart
      cases isPart
    by_cases sameRanges : metadataFile other = path
    · rw [sameRanges, Disk.entry_bind] at isFragments
      cases isFragments
    rw [Disk.entry_bind_of_ne _ same] at isPart
    rw [Disk.entry_bind_of_ne _ sameRanges] at isFragments
    rw [Disk.names_bind_of_ne _ same] at ownName
    rw [Disk.names_bind_of_ne _ sameRanges] at rangesName
    exact kept.loaded other part own ranges isPart isFragments ownName rangesName

end Kept

namespace Named

theorem create (named : Named api disk) {path : Path} {content : Bytes} {entry : Entry}
    (whole : ∀ artifact, entry = .whole artifact → api.artifact artifact = some content) :
    Named api (disk.create path content entry) := by
  have fresh : ∀ {other inode}, disk.names other = some inode → disk.used ≠ inode :=
    fun isName same => Nat.lt_irrefl _ (same ▸ named.bounded _ _ isName)
  refine ⟨?bounded, ?whole, ?part, ?fragments⟩
  case bounded =>
    intro other inode isName
    by_cases same : other = path
    · rw [same, Disk.names_create] at isName
      cases isName
      exact Nat.lt_succ_self _
    · rw [Disk.names_create_of_ne _ same] at isName
      exact Nat.lt_succ_of_lt (named.bounded other inode isName)
  case whole =>
    intro other artifact isEntry
    by_cases same : other = path
    · rw [same, Disk.entry_create] at isEntry
      refine ⟨disk.used, by rw [same, Disk.names_create], ?_⟩
      rw [Disk.files_create]
      exact whole artifact (Option.some.inj isEntry)
    · rw [Disk.entry_create_of_ne _ same] at isEntry
      rcases named.whole other artifact isEntry with ⟨inode, isName, isContent⟩
      refine ⟨inode, by rw [Disk.names_create_of_ne _ same, isName], ?_⟩
      rw [Disk.files_create_of_lt _ (named.bounded other inode isName)]
      exact isContent
  case part =>
    intro other artifact isEntry
    by_cases same : other = path
    · refine ⟨disk.used, by rw [same, Disk.names_create], fun third isName => ?_⟩
      by_cases isPath : third = path
      · exact isPath.trans same.symm
      · rw [Disk.names_create_of_ne _ isPath] at isName
        exact absurd rfl (fresh isName)
    · rw [Disk.entry_create_of_ne _ same] at isEntry
      rcases named.part other artifact isEntry with ⟨inode, ownName, alone⟩
      refine ⟨inode, by rw [Disk.names_create_of_ne _ same, ownName], fun third isName => ?_⟩
      by_cases isPath : third = path
      · rw [isPath, Disk.names_create] at isName
        exact absurd (Option.some.inj isName) (fresh ownName)
      · rw [Disk.names_create_of_ne _ isPath] at isName
        exact alone third isName
  case fragments =>
    intro other artifact isEntry
    by_cases same : other = path
    · exact ⟨disk.used, by rw [same, Disk.names_create]⟩
    · rw [Disk.entry_create_of_ne _ same] at isEntry
      rw [Disk.names_create_of_ne _ same]
      exact named.fragments other artifact isEntry

theorem overwrite (named : Named api disk) {path : Path} {artifact : Artifact}
    (isPart : disk.entry path = some (.part artifact)) (content : Bytes) :
    Named api (disk.overwrite path content) := by
  refine ⟨named.bounded, ?_, named.part, named.fragments⟩
  intro other copied isEntry
  rcases named.whole other copied isEntry with ⟨inode, isName, isContent⟩
  rcases named.part path artifact isPart with ⟨own, ownName, alone⟩
  refine ⟨inode, isName, ?_⟩
  rw [Disk.files_overwrite_of_ne]
  · exact isContent
  · intro shared
    cases ownName.symm.trans shared
    rw [alone other isName] at isEntry
    cases isPart.symm.trans isEntry

end Named

namespace Kept

theorem create (kept : Kept api disk) {path : Path} {content : Bytes} {entry : Entry}
    (whole : ∀ artifact, entry = .whole artifact → api.artifact artifact = some content)
    (part : ∀ artifact, entry = .part artifact →
      disk.entry (metadataFile path) ≠ some (.fragments artifact))
    (fragments : ∀ owner artifact inode, path = metadataFile owner →
      entry = .fragments artifact → disk.entry owner = some (.part artifact) →
      disk.names owner = some inode → Loaded api artifact (disk.files inode) content) :
    Kept api (disk.create path content entry) := by
  refine ⟨kept.toNamed.create whole, ?_⟩
  intro other artifact inode ranges isPart isFragments isName rangesName
  by_cases same : other = path
  · rw [same, Disk.entry_create] at isPart
    rw [same, Disk.entry_create_of_ne _ (metadataFile_ne path)] at isFragments
    exact absurd isFragments (part artifact (Option.some.inj isPart))
  rw [Disk.entry_create_of_ne _ same] at isPart
  rw [Disk.names_create_of_ne _ same] at isName
  rw [Disk.files_create_of_lt _ (kept.bounded other inode isName)]
  by_cases sameRanges : metadataFile other = path
  · rw [sameRanges, Disk.entry_create] at isFragments
    rw [sameRanges, Disk.names_create] at rangesName
    cases rangesName
    rw [Disk.files_create]
    exact fragments other artifact inode sameRanges.symm (Option.some.inj isFragments) isPart isName
  · rw [Disk.entry_create_of_ne _ sameRanges] at isFragments
    rw [Disk.names_create_of_ne _ sameRanges] at rangesName
    rw [Disk.files_create_of_lt _ (kept.bounded _ ranges rangesName)]
    exact kept.loaded other artifact inode ranges isPart isFragments isName rangesName

theorem used (kept : Kept api disk) {path : Path} {artifact : Artifact} {contents ranges : Bytes}
    (isPart : disk.entry path = some (.part artifact))
    (loaded : Loaded api artifact contents ranges) :
    Kept api ((disk.overwrite path contents).create (metadataFile path) ranges
      (.fragments artifact)) := by
  rcases kept.part path artifact isPart with ⟨own, ownName, alone⟩
  have written := kept.toNamed.overwrite isPart contents
  refine ⟨written.create nofun, ?_⟩
  intro other part inode rangesInode otherPart isFragments isName rangesName
  have otherNe : other ≠ metadataFile path := by
    rintro rfl
    rw [Disk.entry_create] at otherPart
    cases otherPart
  rw [Disk.entry_create_of_ne _ otherNe] at otherPart
  rw [Disk.names_create_of_ne _ otherNe] at isName
  rw [Disk.files_create_of_lt _ (written.bounded other inode isName)]
  by_cases same : other = path
  · subst same
    cases ownName.symm.trans isName
    cases isPart.symm.trans otherPart
    rw [Disk.names_create] at rangesName
    cases rangesName
    have overwritten : (disk.overwrite other contents).files own = contents := if_pos ownName
    rw [Disk.files_create, overwritten]
    exact loaded
  · have rangesNe : metadataFile other ≠ metadataFile path :=
      fun equal => same (metadataFile_injective equal)
    rw [Disk.entry_create_of_ne _ rangesNe] at isFragments
    rw [Disk.names_create_of_ne _ rangesNe] at rangesName
    rw [Disk.files_create_of_lt _ (written.bounded _ rangesInode rangesName)]
    have notOwn : disk.names path ≠ some inode := by
      intro shared
      cases ownName.symm.trans shared
      exact same (alone other isName)
    have notRanges : disk.names path ≠ some rangesInode := by
      intro shared
      cases ownName.symm.trans shared
      have isPath := alone _ rangesName
      rw [isPath] at isFragments
      cases isPart.symm.trans isFragments
    rw [Disk.files_overwrite_of_ne _ notOwn, Disk.files_overwrite_of_ne _ notRanges]
    exact kept.loaded other part inode rangesInode otherPart isFragments isName rangesName

end Kept

/-! ## Links and downloads -/

variable (api) in
/-- A disk after a call, and what was answered. -/
structure Answered (Is : Answer → Prop) (returned : Answer × Disk) : Prop where
  right : Is returned.1
  kept : Kept api returned.2

theorem Kept.createHardLink (kept : Kept api disk) {target hardlink : Path} {artifact : Artifact}
    (entry : disk.entry target = some (.whole artifact))
    (found : (disk.lookup target).isSome = true) (nonempty : hardlink ≠ "")
    {overwriteExisting : Bool}
    (free : overwriteExisting = true ∨ disk.lookup hardlink = none ∨ hardlink = target)
    (reachable : Bool) :
    Answered api (RightFile api reachable hardlink artifact)
      (fileAnswer (disk.createHardLink target hardlink overwriteExisting)) := by
  rcases Option.isSome_iff_exists.mp found with ⟨inode, isInode⟩
  rcases kept.whole target artifact entry with ⟨number, isNumber, isContent⟩
  have targetName := disk.names_of_lookup isInode
  cases targetName.symm.trans isNumber
  have linked : Answered api (RightFile api reachable hardlink artifact)
      (fileAnswer (some hardlink, disk.bind hardlink (some inode) (disk.entry target))) := by
    refine ⟨⟨rfl, ?_⟩, entry ▸ kept.bind_whole targetName entry⟩
    have content : (disk.bind hardlink (some inode) (disk.entry target)).content hardlink =
        some (disk.files inode) := by
      rw [Disk.content, Disk.lookup_of_ne _ nonempty, Disk.names_bind]
      rfl
    rw [content, isContent]
    exact ⟨rfl, rfl⟩
  rw [Disk.createHardLink]
  rw [isInode]
  cases there : disk.lookup hardlink with
  | none => exact linked
  | some other =>
      by_cases same : inode = other
      · simp only [same, if_true]
        refine ⟨⟨rfl, ?_⟩, kept⟩
        rw [Disk.content, there, isContent, same]
        exact ⟨rfl, rfl⟩
      · have overwrites : overwriteExisting = true := by
          rcases free with overwrites | absent | isTarget
          · exact overwrites
          · cases absent.symm.trans there
          · rw [isTarget, isInode] at there
            exact absurd (Option.some.inj there) same
        simp only [same, overwrites, Bool.true_eq_false, if_false]
        exact linked

theorem Kept.constructCachePaths (kept : Kept api disk) (cacheBase : Path) (build : Build)
    (targetDirectory artifact backupArtifact : String) :
    ∃ made, Web.constructCachePaths disk cacheBase build targetDirectory artifact backupArtifact =
        (cachePaths cacheBase build targetDirectory artifact backupArtifact, made) ∧
      Kept api made ∧ made.lookup = disk.lookup ∧ made.entry = disk.entry := by
  refine ⟨_, rfl, ?_⟩
  by_cases none_ : backupArtifact = ""
  · rw [if_pos none_]
    exact ⟨(kept.ensureDirectoryExists _).ensureDirectoryExists _, rfl, rfl⟩
  · rw [if_neg none_]
    exact ⟨((kept.ensureDirectoryExists _).ensureDirectoryExists _).ensureDirectoryExists _,
      rfl, rfl⟩

theorem Kept.downloadFile (kept : Kept api disk) (reachable : Bool) (build : Build)
    (directory name : String) :
    (api.downloadFile reachable disk build directory name = (none, disk) ∧
        (reachable = false ∨ api.artifact ⟨build, name⟩ = none)) ∨
      ∃ next, api.downloadFile reachable disk build directory name =
          (some (constructTargetFilepath directory name), next) ∧
        (reachable = true ∧ (api.artifact ⟨build, name⟩).isSome = true) ∧
        Kept api next ∧
        next.entry (constructTargetFilepath directory name) = some (.whole ⟨build, name⟩) ∧
        (next.lookup (constructTargetFilepath directory name)).isSome = true ∧
        ∀ other, other ≠ constructTargetFilepath directory name →
          next.lookup other = disk.lookup other := by
  rw [BuildApi.downloadFile]
  cases isArtifact : api.artifact ⟨build, name⟩ with
  | none => exact .inl ⟨rfl, .inr rfl⟩
  | some content =>
      cases reachable with
      | false => exact .inl ⟨rfl, .inl rfl⟩
      | true =>
          refine .inr ⟨_, rfl, ⟨rfl, rfl⟩, ?_, Disk.entry_create _ _ _ _, ?_, ?_⟩
          · refine (kept.ensureDirectoryExists _).create ?_ nofun nofun
            rintro artifact isEntry
            cases isEntry
            exact isArtifact
          · rw [Disk.lookup_of_ne _ (constructTargetFilepath_ne_empty directory name),
              Disk.names_create]
            rfl
          · intro other different
            rw [Disk.lookup]
            rw [Disk.names_create_of_ne _ different]
            rfl

theorem Kept.cached_downloadFile (kept : Kept api disk) (cacheBasePath : Path)
    (reachable : Bool) (build : Build) (targetDirectory artifactName : String)
    (ours : disk.Ours (cachePaths cacheBasePath build targetDirectory artifactName "").cacheArtifact
      ⟨build, artifactName⟩) :
    Answered api
      (RightFile api reachable (constructTargetFilepath targetDirectory artifactName)
        ⟨build, artifactName⟩)
      (fileAnswer (CachingBuildApi.downloadFile api cacheBasePath reachable disk build
        targetDirectory artifactName)) := by
  rcases kept.constructCachePaths cacheBasePath build targetDirectory artifactName "" with
    ⟨made, isMade, madeKept, sameLookup, sameEntry⟩
  have targetNonempty := constructTargetFilepath_ne_empty targetDirectory artifactName
  rw [CachingBuildApi.downloadFile]
  rw [isMade]
  dsimp only
  by_cases cached : (made.lookup (cachePaths cacheBasePath build targetDirectory artifactName
      "").cacheArtifact).isSome = true
  · rw [if_pos cached]
    have entry := ours (sameLookup ▸ cached)
    exact madeKept.createHardLink (sameEntry ▸ entry) cached targetNonempty (.inl rfl) reachable
  · rw [if_neg cached]
    rcases madeKept.downloadFile reachable build _ artifactName with
      ⟨failed, why⟩ | ⟨next, downloaded, -, nextKept, entry, found, -⟩
    · rw [failed]
      exact ⟨why, madeKept⟩
    · rw [downloaded]
      exact nextKept.createHardLink entry found targetNonempty (.inl rfl) reachable

theorem Kept.isSome_of_ours (kept : Kept api disk) {path : Path} {artifact : Artifact}
    (ours : disk.Ours path artifact) (found : (disk.lookup path).isSome = true) :
    (api.artifact artifact).isSome = true := by
  rcases kept.whole path artifact (ours found) with ⟨inode, -, isContent⟩
  rw [isContent]
  rfl

theorem selectedArtifact_of_isSome {build : Build} {artifactName : String}
    (available : (api.artifact ⟨build, artifactName⟩).isSome = true) (backup : String) :
    api.selectedArtifact build artifactName backup = artifactName := if_pos available

theorem selectedArtifact_of_none {build : Build} {artifactName : String}
    (missing : api.artifact ⟨build, artifactName⟩ = none) (backup : String) :
    api.selectedArtifact build artifactName backup = backup := by
  rw [BuildApi.selectedArtifact, missing]
  rfl

theorem cacheArtifact_isSuffix (directory artifactName : String) :
    artifactName.toList.isSuffixOf (constructTargetFilepath directory artifactName).toList =
      true := by
  rw [List.isSuffixOf_iff_suffix, constructTargetFilepath, String.toList_append]
  exact List.suffix_append _ _

section Backup

variable {cacheBase : Path} {build : Build} {targetDirectory artifactName backup : String}

theorem targetBackup_eq (nonempty : backup ≠ "") :
    (cachePaths cacheBase build targetDirectory artifactName backup).targetBackupArtifact =
      constructTargetFilepath targetDirectory backup := if_neg nonempty

theorem cacheBackup_eq (nonempty : backup ≠ "") :
    (cachePaths cacheBase build targetDirectory artifactName backup).cacheBackupArtifact =
      constructTargetFilepath
        (cachePaths cacheBase build targetDirectory artifactName backup).buildCache backup :=
  if_neg nonempty

theorem backup_ne_empty_of_lookup
    (found : (disk.lookup (cachePaths cacheBase build targetDirectory artifactName
      backup).cacheBackupArtifact).isSome = true) : backup ≠ "" := by
  intro empty
  have noPath : (cachePaths cacheBase build targetDirectory artifactName
      backup).cacheBackupArtifact = "" := if_pos empty
  rw [noPath] at found
  cases found

end Backup

theorem Kept.cached_downloadFileWithBackup (kept : Kept api disk) (cacheBasePath : Path)
    (reachable : Bool) (build : Build)
    (targetDirectory artifactName backupArtifactName : String)
    (inTurn : BackupInTurn api disk build artifactName backupArtifactName
      (cachePaths cacheBasePath build targetDirectory artifactName backupArtifactName)
      reachable) :
    Answered api
      (RightFile api reachable
        (constructTargetFilepath targetDirectory
          (api.selectedArtifact build artifactName backupArtifactName))
        ⟨build, api.selectedArtifact build artifactName backupArtifactName⟩)
      (fileAnswer (CachingBuildApi.downloadFileWithBackup api cacheBasePath reachable disk build
        targetDirectory artifactName backupArtifactName)) := by
  obtain ⟨made, isMade, madeKept, sameLookup, sameEntry⟩ :=
    kept.constructCachePaths cacheBasePath build targetDirectory artifactName backupArtifactName
  rcases inTurn with ⟨main, backup, notPreferred, downloaded⟩
  rw [← sameLookup] at backup notPreferred downloaded
  have mainOurs : made.Ours _ _ := fun found => sameEntry ▸ main (sameLookup ▸ found)
  rw [CachingBuildApi.downloadFileWithBackup]
  rw [isMade]
  dsimp only
  have targetBackup := fun nonempty : backupArtifactName ≠ "" =>
    @targetBackup_eq cacheBasePath build targetDirectory artifactName _ nonempty
  have cacheBackup := fun nonempty : backupArtifactName ≠ "" =>
    @cacheBackup_eq cacheBasePath build targetDirectory artifactName _ nonempty
  have backupNonempty :=
    @backup_ne_empty_of_lookup made cacheBasePath build targetDirectory artifactName
      backupArtifactName
  generalize isPaths : cachePaths cacheBasePath build targetDirectory artifactName
    backupArtifactName = paths at *
  have targetArtifact : paths.targetArtifact =
      constructTargetFilepath targetDirectory artifactName := by rw [← isPaths]; rfl
  have cacheArtifact : paths.cacheArtifact =
      constructTargetFilepath paths.buildCache artifactName := by rw [← isPaths]; rfl
  by_cases cached : (made.lookup paths.cacheArtifact).isSome = true
  · rw [if_pos cached, selectedArtifact_of_isSome (madeKept.isSome_of_ours mainOurs cached),
      targetArtifact]
    exact madeKept.createHardLink (mainOurs cached) cached
      (constructTargetFilepath_ne_empty _ _) (.inl rfl) reachable
  rw [if_neg cached]
  have notCached : made.lookup paths.cacheArtifact = none := by simpa using cached
  have backupOurs : made.Ours paths.cacheBackupArtifact ⟨build, backupArtifactName⟩ :=
    fun found => sameEntry ▸ backup notCached (sameLookup ▸ found)
  by_cases backupCached : (made.lookup paths.cacheBackupArtifact).isSome = true
  · rw [if_pos backupCached, selectedArtifact_of_none (notPreferred notCached backupCached),
      targetBackup (backupNonempty backupCached)]
    exact madeKept.createHardLink (backupOurs backupCached) backupCached
      (constructTargetFilepath_ne_empty _ _) (.inl rfl) reachable
  rw [if_neg backupCached]
  have backupNotCached : made.lookup paths.cacheBackupArtifact = none := by
    simpa using backupCached
  rw [BuildApi.downloadFileWithBackup]
  rcases madeKept.downloadFile reachable build paths.buildCache
      (api.selectedArtifact build artifactName backupArtifactName) with
    ⟨failed, why⟩ | ⟨next, isNext, ⟨isReachable, available⟩, nextKept, entry, found, others⟩
  · rw [failed]
    exact ⟨why, madeKept⟩
  rw [isNext]
  dsimp only
  cases isMain : api.artifact ⟨build, artifactName⟩ with
  | some content =>
      have selected := selectedArtifact_of_isSome
        (Option.isSome_iff_exists.mpr ⟨content, isMain⟩) backupArtifactName
      rw [selected] at entry found ⊢
      rw [if_pos (cacheArtifact_isSuffix _ _), cacheArtifact, targetArtifact]
      exact nextKept.createHardLink entry found (constructTargetFilepath_ne_empty _ _)
        (.inl rfl) reachable
  | none =>
      have selected := selectedArtifact_of_none isMain backupArtifactName
      rw [selected] at available entry found others ⊢
      rcases downloaded isReachable notCached backupNotCached isMain available with
        ⟨nonempty, notSuffix, free⟩
      rw [← cacheBackup nonempty] at entry found others ⊢
      rw [notSuffix, if_neg Bool.false_ne_true, targetBackup nonempty]
      rw [targetBackup nonempty] at free
      refine nextKept.createHardLink entry found (constructTargetFilepath_ne_empty _ _) ?_ reachable
      refine .inr ?_
      by_cases same : constructTargetFilepath targetDirectory backupArtifactName =
          paths.cacheBackupArtifact
      · exact .inr same
      · exact .inl ((others _ same).trans (free.resolve_right same))

/-! ## Sources -/

theorem loaded_nothing {artifact : Artifact} {content : Bytes}
    (isArtifact : api.artifact artifact = some content) (contents : Bytes) :
    Loaded api artifact contents [] := by
  have empty : LazilyLoadedFile.parseMetadata DisjointRangeList.wire [] = .ok .empty := by
    simp only [LazilyLoadedFile.parseMetadata, DisjointRangeSet.deserialize,
      DisjointRangeList.wire_lawful.parses_empty, DisjointRangeSet.insertRanges]
  exact ⟨content, .empty, isArtifact, empty, .empty content contents⟩

theorem Kept.openFiles (kept : Kept api disk) {path : Path} (nonempty : path ≠ "")
    {artifact : Artifact} {content : Bytes} (isArtifact : api.artifact artifact = some content)
    (own : disk.lookup path = none ∧ disk.lookup (metadataFile path) = none ∧
        disk.directory (dirname path) = true ∨
      disk.entry path = some (.part artifact) ∧
        disk.entry (metadataFile path) = some (.fragments artifact)) :
    ∃ next, ((CachingBuildApi.openFile disk (dirname path) path (.part artifact)).bind fun disk =>
          CachingBuildApi.openFile disk (dirname path) (metadataFile path)
            (.fragments artifact)) = some next ∧
      Kept api next ∧ next.entry path = some (.part artifact) ∧
      Loaded api artifact ((next.content path).getD [])
        ((next.content (metadataFile path)).getD []) := by
  have metadataNonempty : metadataFile path ≠ "" := by
    intro same
    have lengths := congrArg (fun text => text.toList.length) same
    simp [metadataFile] at lengths
  rcases own with ⟨noFile, noRanges, isDirectory⟩ | ⟨isPart, isFragments⟩
  · have absent : ∀ other, disk.entry (metadataFile path) ≠ some (.fragments other) := by
      intro other isEntry
      rcases kept.fragments _ other isEntry with ⟨inode, isName⟩
      rw [Disk.lookup_of_ne _ metadataNonempty, isName] at noRanges
      cases noRanges
    have made : Kept api (disk.create path [] (.part artifact)) :=
      kept.create nofun (fun other _ => absent other) nofun
    have different := metadataFile_ne path
    have both : CachingBuildApi.openFile (disk.create path [] (.part artifact)) (dirname path)
        (metadataFile path) (.fragments artifact) =
        some ((disk.create path [] (.part artifact)).create (metadataFile path) []
          (.fragments artifact)) := by
      have still : (disk.create path [] (.part artifact)).lookup (metadataFile path) = none := by
        rw [Disk.lookup_of_ne _ metadataNonempty, Disk.names_create_of_ne _ different,
          ← Disk.lookup_of_ne _ metadataNonempty, noRanges]
      have stillDirectory : (disk.create path [] (.part artifact)).directory (dirname path) =
          true := isDirectory
      rw [CachingBuildApi.openFile, still, stillDirectory]
      rfl
    have madeBoth : Kept api ((disk.create path [] (.part artifact)).create (metadataFile path) []
        (.fragments artifact)) := by
      refine made.create nofun nofun ?_
      intro owner other inode isOwner isEntry isPart _
      cases metadataFile_injective isOwner
      cases isEntry
      exact loaded_nothing isArtifact _
    refine ⟨_, ?_, madeBoth, ?_, ?_⟩
    · rw [CachingBuildApi.openFile, noFile, isDirectory]
      exact both
    · rw [Disk.entry_create_of_ne _ different.symm, Disk.entry_create]
    · have noContent : ((disk.create path [] (.part artifact)).create (metadataFile path) []
          (.fragments artifact)).content (metadataFile path) = some [] := by
        rw [Disk.content, Disk.lookup_of_ne _ metadataNonempty, Disk.names_create]
        exact congrArg some (Disk.files_create _ _ _ _)
      rw [noContent]
      exact loaded_nothing isArtifact _
  · rcases kept.part path artifact isPart with ⟨inode, isName, -⟩
    rcases kept.fragments _ artifact isFragments with ⟨ranges, rangesName⟩
    have file : disk.lookup path = some inode := (disk.lookup_of_ne nonempty).trans isName
    have rangesFile : disk.lookup (metadataFile path) = some ranges :=
      (disk.lookup_of_ne metadataNonempty).trans rangesName
    refine ⟨disk, ?_, kept, isPart, ?_⟩
    · simp only [CachingBuildApi.openFile, file, rangesFile, Option.isSome_some, if_true,
        Option.bind_some]
    · simp only [Disk.content, file, rangesFile, Option.map_some, Option.getD_some]
      exact kept.loaded path artifact inode ranges isPart isFragments isName rangesName

theorem within_of_inside {content : Bytes} {call : SourceCall}
    (inside : SourceCall.inside content.length call = true) : call.meaning.Within content := by
  cases call with
  | setOffset offset =>
      have bound : offset ≤ content.length := of_decide_eq_true inside
      exact bound
  | _ => trivial

theorem Kept.cached_fileReader (kept : Kept api disk) (cacheBasePath : Path) (reachable : Bool)
    (build : Build) (artifactName : String) (use : SourceUse)
    (usable_ : usable api ⟨.fileReader build artifactName use, reachable⟩ = true)
    (own : reachable = true → (api.artifact ⟨build, artifactName⟩).isSome = true →
      let path := CachingBuildApi.sourcePath cacheBasePath artifactName
      disk.lookup path = none ∧ disk.lookup (metadataFile path) = none ∧
          disk.directory (dirname path) = true ∨
        disk.entry path = some (.part ⟨build, artifactName⟩) ∧
          disk.entry (metadataFile path) = some (.fragments ⟨build, artifactName⟩)) :
    Answered api (RightSource api reachable ⟨build, artifactName⟩ use.calls)
      (answer api cacheBasePath disk ⟨.fileReader build artifactName use, reachable⟩) := by
  simp only [answer, CachingBuildApi.fileReader]
  cases isArtifact : api.artifact ⟨build, artifactName⟩ with
  | none => exact ⟨.inr isArtifact, kept⟩
  | some content =>
      cases reachable with
      | false => exact ⟨.inl rfl, kept⟩
      | true =>
          have nonempty : CachingBuildApi.sourcePath cacheBasePath artifactName ≠ "" :=
            constructTargetFilepath_ne_empty cacheBasePath artifactName
          rcases kept.openFiles nonempty isArtifact (own rfl (by rw [isArtifact]; rfl)) with
            ⟨opened, isOpened, openedKept, isPart, loaded⟩
          rcases loaded with ⟨content', set, isContent, parsed, holds⟩
          cases isArtifact.symm.trans isContent
          rcases LazilyLoadedFile.create_at
            ⟨set, parsed, holds⟩ use.opens (api.valid content) with ⟨file, created, atStart⟩
          have sourceAt : CachedZipSource.At DisjointRangeList.wire (api.serves content)
              ⟨file, 0, content.length⟩ 0 := ⟨⟨0, atStart⟩, rfl, Nat.zero_le _⟩
          have fits := api.fits _ content isArtifact
          have within : ∀ call ∈ use.calls, call.meaning.Within content := by
            intro call member
            simp only [usable, isArtifact, List.all_eq_true] at usable_
            exact within_of_inside (usable_ call member)
          rcases (CachedZipSource.simulates DisjointRangeList.wire (api.serves content) fits
              use.reliable).perform within sourceAt with
              ⟨answers, final, last, performed, permitted, finalAt⟩
          rcases finalAt.file with ⟨_, finalFile⟩
          obtain ⟨saved, isSaved, savedHolds⟩ :=
            LazilyLoadedFile.destroy_saves DisjointRangeList.wire_lawful fits finalFile use.destroy
          have used := openedKept.used isPart ⟨content, saved, isArtifact, isSaved, savedHolds⟩
          simp only [Bool.true_eq_false, if_false, isOpened, created,
            CachingBuildApi.useSource, performed]
          exact ⟨⟨content, answers, last, isArtifact, rfl, permitted⟩, used⟩

/-! ## Sequences of calls -/

theorem Kept.answer (kept : Kept api disk) (cacheBasePath : Path) {session : Session}
    (isDisk : session.disk = disk) {call : Call} (usable_ : usable api call = true)
    (inTurn : InTurn api cacheBasePath session call) :
    Answered api (Right api call) (Web.answer api cacheBasePath disk call) := by
  rcases call with ⟨request, reachable⟩
  subst isDisk
  cases request with
  | downloadFile build targetDirectory artifactName =>
      exact kept.cached_downloadFile cacheBasePath reachable build targetDirectory artifactName
        inTurn
  | downloadFileWithBackup build targetDirectory artifactName backupArtifactName =>
      exact kept.cached_downloadFileWithBackup cacheBasePath reachable build targetDirectory
        artifactName backupArtifactName inTurn
  | fileReader build artifactName use =>
      exact kept.cached_fileReader cacheBasePath reachable build artifactName use usable_ inTurn

/-- Files have numbers below the next one, and the cache has put none of them there. -/
structure Disk.Initial (disk : Disk) : Prop where
  bounded : ∀ path inode, disk.names path = some inode → inode < disk.used
  nothing : ∀ path, disk.entry path = none

theorem Disk.Initial.kept (initial : disk.Initial) : Kept api disk := by
  refine ⟨⟨initial.bounded, ?_, ?_, ?_⟩, ?_⟩
  · intro path artifact isEntry
    cases (initial.nothing path).symm.trans isEntry
  · intro path artifact isEntry
    cases (initial.nothing path).symm.trans isEntry
  · intro path artifact isEntry
    cases (initial.nothing path).symm.trans isEntry
  · intro path artifact inode ranges isEntry
    cases (initial.nothing path).symm.trans isEntry

/-- The cache is transparent in every sequence of calls that find at their cache paths only what
was put there as the same artifact. -/
theorem build_cache_transparent (api : BuildApi State) (cacheBasePath : Path) (disk : Disk)
    (initial : disk.Initial) (calls : List Call)
    (inTurn : Run.Along (step api cacheBasePath) (InTurn api cacheBasePath) ⟨disk, []⟩ calls) :
    Run.Always (step api cacheBasePath) (Session.Transparent api) ⟨disk, []⟩ calls := by
  have preserved : ∀ session call next, (Kept api session.disk ∧ session.Transparent api) →
      InTurn api cacheBasePath session call → step api cacheBasePath session call = some next →
      Kept api next.disk ∧ next.Transparent api := by
    rintro session call next ⟨kept, transparent⟩ allowed stepped
    rw [step] at stepped
    split at stepped
    · rename_i usable_
      cases stepped
      have answered := kept.answer cacheBasePath rfl usable_ allowed
      refine ⟨answered.kept, fun entry member => ?_⟩
      rcases List.mem_append.mp member with earlier | now
      · exact transparent entry earlier
      · rw [List.mem_singleton.mp now]
        exact answered.right
    · cases stepped
  have start : Session.Transparent api ⟨disk, []⟩ := fun entry isNone =>
    absurd isNone List.not_mem_nil
  exact Run.always_of_along preserved (fun _ invariant => invariant.2) ⟨initial.kept, start⟩ inTurn

/-! ## Samples -/

def sampleArtifact (artifact : Artifact) : Option Bytes :=
  if artifact.name = "img.zip" then
    if artifact.build.id = "1" then some [1, 2] else if artifact.build.id = "2" then some [3] else none
  else if artifact = ⟨⟨"1", "phone"⟩, "vendor.img"⟩ then some [4]
  else none

def sampleApi : BuildApi InMemoryIo where
  artifact := sampleArtifact
  reader := InMemoryIo.reader
  serves := InMemoryIo.serves
  fileReader := .ofData
  valid content := ⟨rfl, Nat.zero_le _⟩
  fits := by
    intro artifact content isContent
    have short : content.length ≤ 2 := by
      rw [sampleArtifact] at isContent
      split at isContent <;> repeat' split at isContent
      all_goals cases isContent
      all_goals decide
    exact Nat.le_trans short (by decide)

def emptyDisk : Disk where
  names _ := none
  files _ := []
  used := 0
  directory path := path = "/cache"
  entry _ := none

theorem emptyDisk_initial : emptyDisk.Initial := ⟨nofun, fun _ => rfl⟩

def readAll : SourceUse where
  create := LazilyLoadedFile.sampleMetadataIo
  contents := LazilyLoadedFile.sampleContentsIo
  calls := [.open_, .read 1, .read 1]
  destroy := LazilyLoadedFile.sampleMetadataIo
  opens := ⟨rfl, Fs.succeeds_upTo 1⟩
  reliable := ⟨rfl, nofun, Fs.progresses_upTo (by decide)⟩

/-- A download, the same one again, and one with a backup. -/
def sampleCalls : List Call :=
  [⟨.downloadFile ⟨"1", "phone"⟩ "/out" "vendor.img", true⟩,
    ⟨.downloadFile ⟨"1", "phone"⟩ "/other" "vendor.img", false⟩,
    ⟨.downloadFileWithBackup ⟨"1", "phone"⟩ "/out" "missing.img" "img.zip", true⟩]

theorem build_cache_transparent_sample :
    Run.Always (step sampleApi "/cache") (Session.Transparent sampleApi) ⟨emptyDisk, []⟩
      sampleCalls := by
  refine build_cache_transparent sampleApi "/cache" emptyDisk emptyDisk_initial sampleCalls ?_
  refine Run.Along.cons rfl ?_ (Run.Along.cons rfl ?_ (Run.Along.cons rfl ?_ trivial))
  · exact fun found => absurd found (by decide +kernel)
  · exact fun _ => by decide +kernel
  · refine ⟨fun found => absurd found (by decide +kernel), fun _ found =>
      absurd found (by decide +kernel), fun _ found => absurd found (by decide +kernel),
      fun _ _ _ _ _ => by decide +kernel⟩

/-- The archives of two builds are read one after the other. -/
def twoBuilds : List Call :=
  [⟨.fileReader ⟨"1", "phone"⟩ "img.zip" readAll, true⟩,
    ⟨.fileReader ⟨"2", "phone"⟩ "img.zip" readAll, true⟩]

/-- The second source has the bytes of the first. -/
theorem archive_of_other_build :
    ¬ Run.Always (step sampleApi "/cache") (Session.Transparent sampleApi) ⟨emptyDisk, []⟩
      twoBuilds := by
  intro always
  obtain ⟨final, ran, isLast⟩ : ∃ final,
      Run.run (step sampleApi "/cache") ⟨emptyDisk, []⟩ twoBuilds = some final ∧
        final.log.getLast? = some (⟨.fileReader ⟨"2", "phone"⟩ "img.zip" readAll, true⟩,
          .source (some [.done, .bytes [1], .bytes [2]])) :=
    ⟨_, rfl, rfl⟩
  have right := always.final ran _ (List.mem_of_getLast? isLast)
  rcases right with ⟨content, answers, last, isContent, given, permitted⟩
  have isThree : content = [3] := by
    cases isContent
    rfl
  cases given
  subst isThree
  cases permitted with
  | cons opened rest =>
      cases opened
      cases rest with
      | cons firstRead _ =>
          cases firstRead with
          | read reads => exact absurd reads.isSlice (by decide)

end Cuttlefish.Web
