import Cuttlefish.Utils.Directories

/-! # Builds in directories

`DownloadTargetFile` of `AndroidBuildApi`, in `host/libs/web`, for a build that is a list of
directories: a link to the artifact is made. -/

namespace Cuttlefish.Web

open FlagParser (quoted withContext)

structure DirectoryBuild where
  paths : List Text
  target : Text
  filepath : Option Text

namespace DirectoryBuild

def print (build : DirectoryBuild) : String :=
  "(paths=" ++ quoted ((build.paths.intersperse [':']).flatten) ++ ", target=" ++
    quoted build.target ++ ", filepath=" ++ quoted (build.filepath.getD []) ++ ")"

/-- `path + "/" + artifact`. -/
def inDirectory (path artifact : Text) : Text := path ++ '/' :: artifact

variable (build : DirectoryBuild)

def replaceByLink (source path : Text) : Action FileTree Unit := fun tree =>
  let removed := (tree.unlink path).getD tree
  match removed.symlink source path with
  | none => (.error (.err ("symlink(" ++ quoted source ++ ", " ++ quoted path ++ ") failed")),
      removed)
  | some made => (.ok (), made)

/-- The loop of `ArtifactToFile`. Its variable has the name of the path that the link is wanted
at, so that it is the directory that is replaced. -/
def linkArtifact (artifact : Text) : List Text → Action FileTree Unit
  | [] => fun tree => (.error (.err ("Could not find artifact " ++ quoted artifact ++
      " in build \"" ++ build.print ++ "\"")), tree)
  | path :: paths => fun tree =>
      let source := inDirectory path artifact
      if tree.fileExists source true then replaceByLink source path tree
      else linkArtifact artifact paths tree

def artifactToFile (artifact _path : Text) : Action FileTree Unit :=
  build.linkArtifact artifact build.paths

def linkTarget (artifactName targetFilepath : Text) : Action FileTree Text := fun tree =>
  let (result, tree) := build.artifactToFile artifactName targetFilepath tree
  ((result.map fun _ => targetFilepath).mapError (withContext
    ("Unable to download " ++ build.print ++ ":" ++ String.ofList artifactName ++ " to " ++
      String.ofList targetFilepath)), tree)

def downloadTargetFile (targetDirectory artifactName : Text) : Action FileTree Text := do
  let targetFilepath := inDirectory targetDirectory artifactName
  ensureDirectoryExists (dirname targetFilepath)
  build.linkTarget artifactName targetFilepath

/-! ## The right link -/

def directory? (artifact : Text) (tree : FileTree) : Option Text :=
  build.paths.find? fun path => tree.fileExists (inDirectory path artifact) true

def Inside (path directory : Text) : Prop := path = directory ∨ directory ++ ['/'] <+: path

/-- The download succeeds if a directory contains the artifact, with a link at the target to the
artifact in the first one. The build's directories are as they were when the search began. -/
structure LinksArtifact (artifact target : Text) (before : FileTree)
    (returned : Result Text × FileTree) : Prop where
  succeeds : (∃ value, returned.1 = .ok value) ↔
    ∃ directory, build.directory? artifact before = some directory
  linked : ∀ directory, build.directory? artifact before = some directory →
    returned.2.lstat target = some (.link (inDirectory directory artifact))
  unchanged : ∀ directory ∈ build.paths, ∀ path, Inside path directory →
    returned.2.lstat path = before.lstat path

/-- The directory is itself a link to what it is replaced by, it can be replaced, and the target
is such a link already. -/
structure AlreadyLinked (artifact target directory : Text) (tree : FileTree) : Prop where
  link : tree.lstat directory = some (.link (inDirectory directory artifact))
  replaceable : ∃ removed made, tree.unlink directory = some removed ∧
    removed.symlink (inDirectory directory artifact) directory = some made
  wanted : tree.lstat target = some (.link (inDirectory directory artifact))

variable {build}

theorem linkArtifact_eq (artifact : Text) (paths : List Text) (tree : FileTree) :
    build.linkArtifact artifact paths tree =
      match paths.find? fun path => tree.fileExists (inDirectory path artifact) true with
      | none => build.linkArtifact artifact [] tree
      | some path => replaceByLink (inDirectory path artifact) path tree := by
  induction paths with
  | nil => rfl
  | cons path paths induction =>
      change (if tree.fileExists (inDirectory path artifact) true then _ else _) = _
      rw [List.find?_cons]
      cases found : tree.fileExists (inDirectory path artifact) true with
      | false => exact induction
      | true => rfl

theorem replaceByLink_eq_ok {source path : Text} {tree made : FileTree} {entry : Entry}
    (there : tree.lstat path = some entry)
    (replaced : replaceByLink source path tree = (.ok (), made)) :
    ∃ removed, tree.unlink path = some removed ∧ removed.symlink source path = some made := by
  cases unlinked : tree.unlink path with
  | none =>
      have fails : tree.symlink source path = none := FileTree.symlink_of_lstat there source
      simp [replaceByLink, unlinked, fails] at replaced
  | some removed =>
      refine ⟨removed, rfl, ?_⟩
      rw [replaceByLink, unlinked, Option.getD_some] at replaced
      cases linked : removed.symlink source path with
      | none =>
          rw [linked] at replaced
          cases replaced
      | some other =>
          rw [linked] at replaced
          cases replaced
          rfl

theorem lstat_of_directoryExists {tree : FileTree} {path : Text}
    (there : tree.directoryExists path = true) : ∃ entry, tree.lstat path = some entry := by
  rw [FileTree.directoryExists] at there
  split at there
  · rename_i inode found
    exact Option.ne_none_iff_exists'.mp (FileTree.lstat_ne_none found)
  · cases there

theorem downloadTargetFile_eq {targetDirectory artifact : Text} {tree prepared : FileTree}
    (made : ensureDirectoryExists (dirname (inDirectory targetDirectory artifact)) tree =
      (.ok (), prepared)) :
    build.downloadTargetFile targetDirectory artifact tree =
      build.linkTarget artifact (inDirectory targetDirectory artifact) prepared :=
  Action.bind_of_ok made

theorem linkTarget_ok_iff {artifact target : Text} {tree : FileTree} :
    (∃ value, (build.linkTarget artifact target tree).1 = .ok value) ↔
      (build.artifactToFile artifact target tree).1 = .ok () := by
  rw [linkTarget]
  cases outcome : (build.artifactToFile artifact target tree).1 with
  | error failure => simp [outcome, Except.map, Except.mapError]
  | ok value => simp [outcome, Except.map, Except.mapError]

theorem artifactToFile_of_none {artifact : Text} {tree : FileTree}
    (missing : build.directory? artifact tree = none) (target : Text) :
    (build.artifactToFile artifact target tree).1 ≠ .ok () ∧
      (build.artifactToFile artifact target tree).2 = tree := by
  rw [artifactToFile, linkArtifact_eq]
  unfold directory? at missing
  rw [missing]
  constructor
  · intro isOk
    cases isOk
  · rfl

theorem artifactToFile_of_some {artifact directory : Text} {tree : FileTree}
    (found : build.directory? artifact tree = some directory) (target : Text) :
    build.artifactToFile artifact target tree =
      replaceByLink (inDirectory directory artifact) directory tree := by
  rw [artifactToFile, linkArtifact_eq]
  unfold directory? at found
  rw [found]

theorem replaceByLink_of_alreadyLinked {artifact target directory : Text} {tree : FileTree}
    (already : AlreadyLinked artifact target directory tree) :
    replaceByLink (inDirectory directory artifact) directory tree = (.ok (), tree) := by
  rcases already.replaceable with ⟨removed, made, unlinked, linked⟩
  have same : made = tree := FileTree.symlink_unlink unlinked linked already.link
  rw [same] at linked
  rw [replaceByLink, unlinked, Option.getD_some, linked]

/-- The right link is made exactly where no directory contains the artifact, up to a directory
that is the wanted link itself. -/
theorem downloadTargetFile_links_iff (build : DirectoryBuild) {targetDirectory artifact : Text}
    {tree prepared : FileTree}
    (made : ensureDirectoryExists (dirname (inDirectory targetDirectory artifact)) tree =
      (.ok (), prepared))
    (directories : ∀ directory ∈ build.paths, prepared.directoryExists directory = true) :
    build.LinksArtifact artifact (inDirectory targetDirectory artifact) prepared
        (build.downloadTargetFile targetDirectory artifact tree) ↔
      ∀ directory, build.directory? artifact prepared = some directory →
        AlreadyLinked artifact (inDirectory targetDirectory artifact) directory prepared := by
  rw [downloadTargetFile_eq made]
  have final : (build.linkTarget artifact (inDirectory targetDirectory artifact) prepared).2 =
      (build.artifactToFile artifact (inDirectory targetDirectory artifact) prepared).2 := rfl
  cases found : build.directory? artifact prepared with
  | none =>
      have unchanged := artifactToFile_of_none found (inDirectory targetDirectory artifact)
      apply iff_of_true
      · constructor
        · rw [linkTarget_ok_iff, found]
          apply iff_of_false unchanged.1
          rintro ⟨_, isSome⟩
          cases isSome
        · intro directory isSome
          rw [found] at isSome
          cases isSome
        · intro directory _member path _inside
          rw [final, unchanged.2]
      · intro directory isSome
        cases isSome
  | some directory =>
      have replaced := artifactToFile_of_some found (inDirectory targetDirectory artifact)
      have member : directory ∈ build.paths := List.mem_of_find?_eq_some found
      constructor
      · intro links other same
        cases same
        rcases lstat_of_directoryExists (directories directory member) with ⟨entry, there⟩
        have succeeds := linkTarget_ok_iff.mp (links.succeeds.mpr ⟨directory, found⟩)
        rw [replaced] at succeeds final
        rcases replaceByLink_eq_ok there (Prod.ext succeeds rfl) with ⟨removed, unlinked, linked⟩
        -- the directory was what it has become
        have before := links.unchanged directory member directory (Or.inl rfl)
        rw [final, FileTree.lstat_symlink linked] at before
        have already : (replaceByLink (inDirectory directory artifact) directory prepared).2 =
            prepared := FileTree.symlink_unlink unlinked linked before.symm
        have wanted := links.linked directory found
        rw [final, already] at wanted
        exact ⟨before.symm, ⟨removed, _, unlinked, linked⟩, wanted⟩
      · intro already
        have linked := already directory rfl
        rw [replaceByLink_of_alreadyLinked linked] at replaced
        rw [replaced] at final
        constructor
        · rw [linkTarget_ok_iff, replaced]
          exact iff_of_true rfl ⟨directory, found⟩
        · intro other same
          have sameDirectory : directory = other := Option.some.inj (found.symm.trans same)
          rw [final, ← sameDirectory]
          exact linked.wanted
        · intro other _member path _inside
          rw [final]

/-- A build in `/build`, and `/out` without files. -/
def sampleTree : FileTree where
  entries directory name :=
    if directory = 0 ∧ name = "build".toList then some (.directory 1)
    else if directory = 0 ∧ name = "out".toList then some (.directory 2)
    else if directory = 1 ∧ name = "boot.img".toList then some (.file 3)
    else none
  parent _ := 0
  root := 0
  current := 0
  next := 4

def sampleBuild : DirectoryBuild := ⟨["/build".toList], "phone".toList, none⟩

theorem sampleTree_prepared {artifact : Text}
    (directory : dirname (inDirectory "/out".toList artifact) = "/out".toList) :
    ensureDirectoryExists (dirname (inDirectory "/out".toList artifact)) sampleTree =
      (.ok (), sampleTree) := by
  rw [directory]
  exact ensureDirectoryExists_of_directoryExists (by decide +kernel)

theorem downloadTargetFile_links_missing :
    sampleBuild.LinksArtifact "super.img".toList (inDirectory "/out".toList "super.img".toList)
      sampleTree (sampleBuild.downloadTargetFile "/out".toList "super.img".toList sampleTree) := by
  apply (downloadTargetFile_links_iff sampleBuild (sampleTree_prepared (by decide +kernel))
    (by decide +kernel)).mpr
  intro directory found
  have missing : sampleBuild.directory? "super.img".toList sampleTree = none := by decide +kernel
  rw [missing] at found
  cases found

/-- The artifact that is there is not linked. -/
theorem boot_image_not_linked :
    ¬ sampleBuild.LinksArtifact "boot.img".toList (inDirectory "/out".toList "boot.img".toList)
      sampleTree (sampleBuild.downloadTargetFile "/out".toList "boot.img".toList sampleTree) := by
  intro links
  have found : sampleBuild.directory? "boot.img".toList sampleTree = some "/build".toList := by
    decide +kernel
  have succeeds := links.succeeds.mpr ⟨_, found⟩
  rw [downloadTargetFile_eq (sampleTree_prepared (by decide +kernel)), linkTarget_ok_iff,
    artifactToFile_of_some found] at succeeds
  have there : sampleTree.lstat "/build".toList = some (.directory 1) := by decide +kernel
  rcases replaceByLink_eq_ok there (Prod.ext succeeds rfl) with ⟨removed, unlinked, -⟩
  have refused : sampleTree.unlink "/build".toList = none := rfl
  rw [refused] at unlinked
  cases unlinked

end DirectoryBuild

end Cuttlefish.Web
