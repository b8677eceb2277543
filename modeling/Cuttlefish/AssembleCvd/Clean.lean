import Cuttlefish.Foundation.ListedTree
import Cuttlefish.Utils.Directories

/-! # Cleaning prior files

`CleanPriorFiles` of `host/commands/assemble_cvd/clean.cc`. -/

namespace Cuttlefish.AssembleCvd.Clean

open FileTree
open FlagParser (quoted withContext)

def isTolerated (errno : Errno) : Bool :=
  errno = .eexist ∨ errno = .enotempty ∨ errno = .erofs ∨ errno = .ebusy

section

variable (kernel : Kernel) (preserving : List Text)

def cleanEntities (clean : Text → ListedTree → Option (Result Unit × ListedTree)) (path : Text) :
    List Text → ListedTree → Option (Result Unit × ListedTree)
  | [], tree => some (.ok (), tree)
  | entityName :: entityNames, tree =>
      if entityName = ['.'] ∨ entityName = ['.', '.'] then
        cleanEntities clean path entityNames tree
      else
        let entityPath := path ++ '/' :: entityName
        match clean entityPath tree with
        | none => none
        | some (.error failure, tree) =>
            some (.error (withContext ("CleanPriorFiles for " ++ quoted path ++
              " failed on recursing into " ++ quoted entityPath) failure), tree)
        | some (.ok (), tree) => cleanEntities clean path entityNames tree

def removeFile (path : Text) (tree : ListedTree) : Result Unit × ListedTree :=
  match kernel.unlink tree path with
  | .error _ => (.error (.err ("Could not unlink " ++ quoted path)), tree)
  | .ok tree => (.ok (), tree)

def removeDirectory (path : Text) (tree : ListedTree) : Result Unit × ListedTree :=
  match kernel.rmdir tree path with
  | .ok tree => (.ok (), tree)
  | .error errno =>
      if isTolerated errno then (.ok (), tree)
      else
        (.error (.err ("Could not rmdir '" ++ String.ofList path ++ "': '" ++
          kernel.strError errno ++ "'")), tree)

/-- `CleanPriorFiles` of one path. None is where the recursion is deeper than the fuel. -/
def cleanPriorFiles : Nat → Text → ListedTree → Option (Result Unit × ListedTree)
  | 0, _, _ => none
  | fuel + 1, path, tree =>
      if basename path ∈ preserving then some (.ok (), tree)
      else
        match kernel.lstat tree path with
        | .error .enoent => some (.ok (), tree)
        | .error _ => some (.error (.err ("Could not stat \"" ++ String.ofList path)), tree)
        | .ok (.directory _) =>
            match kernel.opendir tree path with
            | .error _ => some (.error (.err ("Could not clean " ++ quoted path)), tree)
            | .ok entityNames =>
                match cleanEntities (cleanPriorFiles fuel) path entityNames tree with
                | none => none
                | some (.error failure, tree) => some (.error failure, tree)
                | some (.ok (), tree) => some (removeDirectory kernel path tree)
        | .ok _ => some (removeFile kernel path tree)

/-! ## Paths -/

def priorFiles (tree : ListedTree) : List Text → Result (List Text × List Text)
  | [] => .ok ([], [])
  | path :: paths =>
      match kernel.stat tree path with
      | .error .enoent => priorFiles tree paths
      | .error _ => .error (.err ("Could not stat " ++ quoted path))
      | .ok (.directory _) =>
          (priorFiles tree paths).map fun (priorDirs, priorFiles) => (path :: priorDirs, priorFiles)
      | .ok _ =>
          (priorFiles tree paths).map fun (priorDirs, priorFiles) => (priorDirs, path :: priorFiles)

def cleanEach (fuel : Nat) : List Text → ListedTree → Option (Result Unit × ListedTree)
  | [], tree => some (.ok (), tree)
  | path :: paths, tree =>
      match cleanPriorFiles kernel preserving fuel path tree with
      | none => none
      | some (.error failure, tree) =>
          some (.error (withContext ("CleanPriorFiles failed for " ++ quoted path) failure), tree)
      | some (.ok (), tree) => cleanEach fuel paths tree

def observedPids (lsof : List Text × List Text → Option Text) (tree : ListedTree)
    (prior : List Text × List Text) : Text :=
  if ¬ tree.inSandbox ∧ (prior.1 ≠ [] ∨ prior.2 ≠ []) then (lsof prior).getD [] else []

def cleanPaths (lsof : List Text × List Text → Option Text) (fuel : Nat) (paths : List Text)
    (tree : ListedTree) : Option (Result Unit × ListedTree) :=
  match priorFiles kernel tree paths with
  | .error failure => some (.error failure, tree)
  | .ok prior =>
      let lsofOut := observedPids lsof tree prior
      if lsofOut ≠ [] then
        some (.error (.err ("Instance directory files in use. Try `cvd reset`? Observed PIDs: " ++
          String.ofList (lsofOut.flatMap fun char => if char = '\n' then [',', ' '] else [char]))),
          tree)
      else cleanEach kernel preserving fuel paths tree

/-! ## What is left -/

/-- A name on the path, or on the way from its entry to one below it, is preserved, or that entry
is a directory that cannot be removed. -/
def Stays (tree : ListedTree) (parent : Nat) (path : List Text) : Prop :=
  ∃ later entry, tree.nodeAt parent (path ++ later) = some entry ∧
    ((∃ name ∈ path ++ later, name ∈ preserving) ∨ kernel.Holds entry)

structure Cleaned (tree after : ListedTree) (parent : Nat) (name : Text) : Prop where
  stays : ∀ names entry, after.nodeAt parent (name :: names) = some entry ↔
    tree.nodeAt parent (name :: names) = some entry ∧
      Stays kernel preserving tree parent (name :: names)
  outside : ∀ directory other, (directory, other) ≠ (parent, name) →
    tree.Outside parent name directory → after.entries directory other =
      tree.entries directory other

end

variable {kernel : Kernel} {preserving : List Text}

/-! ## One call -/

theorem removeFile_ok {path : Text} {tree after : ListedTree}
    (ok : removeFile kernel path tree = (.ok (), after)) :
    kernel.unlink tree path = .ok after := by
  rw [removeFile] at ok
  split at ok
  · cases ok
  · next unlinked =>
    cases ok
    exact unlinked

theorem removeDirectory_ok {path : Text} {tree after : ListedTree}
    (ok : removeDirectory kernel path tree = (.ok (), after)) :
    kernel.rmdir tree path = .ok after ∨
      ∃ errno, kernel.rmdir tree path = .error errno ∧ isTolerated errno = true ∧ after = tree := by
  rw [removeDirectory] at ok
  split at ok
  · next removed =>
    cases ok
    exact .inl removed
  · next errno refused =>
    split at ok
    · next tolerated =>
      cases ok
      exact .inr ⟨errno, refused, tolerated, rfl⟩
    · cases ok

theorem cleanPriorFiles_cases {fuel : Nat} {path : Text} {tree after : ListedTree}
    {result : Result Unit}
    (ran : cleanPriorFiles kernel preserving (fuel + 1) path tree = some (result, after)) :
    (basename path ∈ preserving ∧ after = tree) ∨ basename path ∉ preserving ∧
      ((after = tree ∧ (result = .ok () → tree.lstat path = none)) ∨
        (∃ entry, tree.lstat path = some entry ∧ (∀ inode, entry ≠ .directory inode) ∧
          removeFile kernel path tree = (result, after)) ∨
        ∃ directory entityNames entered between, tree.lstat path = some (.directory directory) ∧
          kernel.opendir tree path = .ok entityNames ∧
          cleanEntities (cleanPriorFiles kernel preserving fuel) path entityNames tree =
            some (entered, between) ∧
          ((entered ≠ .ok () ∧ result = entered ∧ after = between) ∨
            (entered = .ok () ∧ removeDirectory kernel path between = (result, after)))) := by
  rw [cleanPriorFiles] at ran
  split at ran
  · next kept =>
    cases ran
    exact .inl ⟨kept, rfl⟩
  next notKept =>
  refine .inr ⟨notKept, ?_⟩
  split at ran
  · next missing =>
    cases ran
    exact .inl ⟨rfl, fun _ => Kernel.lstat_enoent missing⟩
  · cases ran
    exact .inl ⟨rfl, fun ok => by cases ok⟩
  · next directory found =>
    split at ran
    · cases ran
      exact .inl ⟨rfl, fun ok => by cases ok⟩
    next entityNames opened =>
    refine .inr (.inr ⟨directory, entityNames, ?_⟩)
    split at ran
    · cases ran
    · next failure between entered =>
      cases ran
      exact ⟨.error failure, after, Kernel.lstat_eq_ok found, opened, entered,
        .inl ⟨by simp, rfl, rfl⟩⟩
    · next between entered =>
      exact ⟨.ok (), between, Kernel.lstat_eq_ok found, opened, entered,
        .inr ⟨rfl, Option.some.inj ran⟩⟩
  · next entry notDirectory found =>
    refine .inr (.inl ⟨entry, Kernel.lstat_eq_ok found, ?_, Option.some.inj ran⟩)
    intro inode isDirectory
    exact notDirectory inode isDirectory

/-! ## Files are only removed -/

theorem removeFile_extends {path : Text} {tree after : ListedTree} {result : Result Unit}
    (ran : removeFile kernel path tree = (result, after)) :
    Extends after.toFileTree tree.toFileTree := by
  rw [removeFile] at ran
  split at ran
  · cases ran
    exact .refl _
  · next unlinked =>
    cases ran
    rcases Kernel.unlink_eq_ok unlinked with ⟨directory, name, -, rfl⟩
    exact ListedTree.extends_remove _ _ _

theorem removeDirectory_extends {path : Text} {tree after : ListedTree} {result : Result Unit}
    (ran : removeDirectory kernel path tree = (result, after)) :
    Extends after.toFileTree tree.toFileTree := by
  rw [removeDirectory] at ran
  split at ran
  · next removed =>
    cases ran
    rcases Kernel.rmdir_eq_ok removed with ⟨directory, name, rfl⟩
    exact ListedTree.extends_remove _ _ _
  · split at ran <;>
    · cases ran
      exact .refl _

theorem cleanEntities_extends {clean : Text → ListedTree → Option (Result Unit × ListedTree)}
    (cleans : ∀ path tree result after, clean path tree = some (result, after) →
      Extends after.toFileTree tree.toFileTree)
    {path : Text} {entityNames : List Text} {tree after : ListedTree} {result : Result Unit}
    (ran : cleanEntities clean path entityNames tree = some (result, after)) :
    Extends after.toFileTree tree.toFileTree := by
  induction entityNames generalizing tree with
  | nil =>
      cases ran
      exact .refl _
  | cons entityName entityNames induction =>
      rw [cleanEntities] at ran
      split at ran
      · exact induction ran
      dsimp only at ran
      split at ran
      · cases ran
      · next cleaned =>
        cases ran
        exact cleans _ _ _ _ cleaned
      · next cleaned => exact (induction ran).trans (cleans _ _ _ _ cleaned)

theorem cleanPriorFiles_extends {fuel : Nat} {path : Text} {tree after : ListedTree}
    {result : Result Unit}
    (ran : cleanPriorFiles kernel preserving fuel path tree = some (result, after)) :
    Extends after.toFileTree tree.toFileTree := by
  induction fuel generalizing path tree after result with
  | zero => cases ran
  | succ fuel induction =>
      rcases cleanPriorFiles_cases ran with ⟨-, rfl⟩ | ⟨-, ⟨rfl, -⟩ | ⟨entry, -, -, removed⟩ |
        ⟨directory, entityNames, entered, between, -, -, entities, left⟩⟩
      · exact .refl _
      · exact .refl _
      · exact removeFile_extends removed
      · have shrunk : Extends between.toFileTree tree.toFileTree :=
          cleanEntities_extends (fun _ _ _ _ => induction) entities
        rcases left with ⟨-, -, rfl⟩ | ⟨-, removed⟩
        · exact shrunk
        · exact (removeDirectory_extends removed).trans shrunk

/-! ## Enough fuel -/

theorem cleanEntities_ne_none {clean : Text → ListedTree → Option (Result Unit × ListedTree)}
    {path : Text} {entityNames : List Text} {tree : ListedTree}
    (extends_ : ∀ path tree result after, clean path tree = some (result, after) →
      Extends after.toFileTree tree.toFileTree)
    (cleans : ∀ name ∈ entityNames, name ≠ ['.'] → name ≠ ['.', '.'] →
      ∀ smaller : ListedTree, Extends smaller.toFileTree tree.toFileTree →
        clean (path ++ '/' :: name) smaller ≠ none) :
    cleanEntities clean path entityNames tree ≠ none := by
  induction entityNames generalizing tree with
  | nil => simp [cleanEntities]
  | cons entityName entityNames induction =>
      rw [List.forall_mem_cons] at cleans
      rw [cleanEntities]
      split
      · exact induction cleans.2
      next notDots =>
      rw [not_or] at notDots
      dsimp only
      split
      · next deeper => exact absurd deeper (cleans.1 notDots.1 notDots.2 tree (.refl _))
      · simp
      · next after cleaned =>
        have shrunk := extends_ _ _ _ _ cleaned
        exact induction fun name member notDot notDots smaller extends_ =>
          cleans.2 name member notDot notDots smaller (extends_.trans shrunk)

/-- What the path leads to is not higher than the fuel. -/
structure Fits (fuel : Nat) (path : Text) (tree : ListedTree) : Prop where
  positive : 0 < fuel
  isName : ∀ parent name, tree.place path = some (parent, name) → IsName name
  height : ∀ parent name, tree.place path = some (parent, name) →
    ∀ names, tree.nodeAt parent (name :: names) ≠ none → names.length < fuel

theorem Fits.mono {fuel : Nat} {path : Text} {tree smaller : ListedTree}
    (fits : Fits fuel path tree) (extends_ : Extends smaller.toFileTree tree.toFileTree) :
    Fits fuel path smaller := by
  refine ⟨fits.positive, fun parent name placed => ?_, fun parent name placed names there => ?_⟩
  · exact fits.isName parent name (extends_.place placed)
  · apply fits.height parent name (extends_.place placed)
    intro missing
    cases found : smaller.nodeAt parent (name :: names) with
    | none => exact there found
    | some entry =>
        rw [extends_.nodeAt found] at missing
        cases missing

theorem exists_place_of_lstat {path : Text} {tree : ListedTree} {entry : Entry}
    (found : tree.lstat path = some entry)
    (isName : ∀ parent name, tree.place path = some (parent, name) → IsName name) :
    ∃ parent name, tree.place path = some (parent, name) ∧ IsName name ∧
      tree.entries parent name = some entry := by
  cases placed : tree.place path with
  | none =>
      rw [lstat, placed] at found
      cases found
  | some place =>
      have named := isName place.1 place.2 placed
      exact ⟨place.1, place.2, rfl, named, (lstat_of_place placed named).symm.trans found⟩

theorem cleanPriorFiles_ne_none {fuel : Nat} {path : Text} {tree : ListedTree}
    (fits : Fits fuel path tree) : cleanPriorFiles kernel preserving fuel path tree ≠ none := by
  induction fuel generalizing path tree with
  | zero => exact absurd fits.positive (lt_irrefl 0)
  | succ fuel induction =>
      rw [cleanPriorFiles]
      split
      · simp
      split
      · simp
      · simp
      · next directory found =>
        split
        · simp
        next entityNames opened =>
        rcases exists_place_of_lstat (Kernel.lstat_eq_ok found) fits.isName with
          ⟨parent, name, placed, named, there⟩
        have entities := Kernel.opendir_of_place placed named there opened
        have entered : cleanEntities (cleanPriorFiles kernel preserving fuel) path entityNames tree
            ≠ none := by
          refine cleanEntities_ne_none (fun _ _ _ _ => cleanPriorFiles_extends) ?_
          intro entity member notDot notDots smaller extends_
          have listed : entity ∈ tree.names directory := by
            rw [entities] at member
            simpa [notDot, notDots] using member
          have height : ∀ names, tree.nodeAt directory (entity :: names) ≠ none →
              names.length < fuel := by
            intro names below
            rw [← nodeAt_cons_directory there] at below
            exact Nat.succ_lt_succ_iff.mp (fits.height parent name placed _ below)
          have isEntity := tree.isName directory entity listed
          have place := place_append placed named there isEntity.2
          refine induction (Fits.mono ⟨?_, ?_, ?_⟩ extends_)
          · exact height [] (by rw [nodeAt_singleton]; exact (tree.mem_names _ _).mp listed)
          · intro otherParent other otherPlace
            cases place.symm.trans otherPlace
            exact isEntity.1
          · intro otherParent other otherPlace
            cases place.symm.trans otherPlace
            exact height
        split
        · next deeper => exact absurd deeper entered
        · simp
        · simp
      · simp

/-! ## The last name of a path -/

theorem rtakeWhile_of_components {path name : Text} {front : List Text}
    (parts : components path = front ++ [name]) : path.rtakeWhile (· ≠ '/') = name := by
  have split : path.rdropWhile (· ≠ '/') ++ path.rtakeWhile (· ≠ '/') = path :=
    List.rdropWhile_append_rtakeWhile
  have plain : '/' ∉ path.rtakeWhile (· ≠ '/') := by
    intro member
    simpa using List.mem_rtakeWhile_imp member
  by_cases empty : path.rdropWhile (· ≠ '/') = []
  · rw [empty, List.nil_append] at split
    rw [split] at plain
    rw [components, List.splitOn_eq_singleton plain] at parts
    have single : [path] = front ++ [name] := parts
    rw [split]
    cases front with
    | nil => exact List.singleton_inj.mp single
    | cons first rest =>
        have short := congrArg List.length single
        simp at short
  · have slash := List.rdropWhile_last_not _ _ empty
    have isSlash : (path.rdropWhile (· ≠ '/')).getLast empty = '/' := by simpa using slash
    rw [← List.dropLast_append_getLast empty, isSlash, List.append_assoc,
      List.singleton_append] at split
    rw [← split, components_append plain] at parts
    exact (List.append_inj' parts rfl).2 |> List.singleton_inj.mp

theorem basename_of_place {path name : Text} {tree : FileTree} {parent : Nat}
    (placed : tree.place path = some (parent, name)) (named : IsName name) :
    basename path = name ∧ path.rdropWhile (· = '/') = path := by
  rcases place_eq_some placed with ⟨nonempty, front, parts, -⟩
  have last := rtakeWhile_of_components parts
  have plain : path.rdropWhile (· = '/') = path := by
    rw [List.rdropWhile_eq_self_iff]
    intro _ slash
    have isSlash : path.getLast nonempty = '/' := by simpa using slash
    rw [← List.dropLast_append_getLast nonempty, isSlash,
      List.rtakeWhile_concat_neg _ _ _ (by simp)] at last
    exact named.1 (.inl last.symm)
  refine ⟨?_, plain⟩
  rw [basename, if_neg nonempty]
  dsimp only
  rw [plain, if_neg nonempty, last]

/-! ## What one call cleans -/

theorem stays_congr {first second : ListedTree} {directory : Nat} {path : List Text}
    (same : ∀ later, first.nodeAt directory (path ++ later) =
      second.nodeAt directory (path ++ later)) :
    Stays kernel preserving first directory path ↔
      Stays kernel preserving second directory path := by
  simp only [Stays, same]

theorem stays_cons {tree : ListedTree} {parent directory : Nat} {name child : Text}
    (there : tree.entries parent name = some (.directory directory))
    (notKept : name ∉ preserving) (names : List Text) :
    Stays kernel preserving tree parent (name :: child :: names) ↔
      Stays kernel preserving tree directory (child :: names) := by
  simp only [Stays, List.cons_append, nodeAt_cons_directory there, List.mem_cons,
    exists_eq_or_imp, notKept, false_or]

theorem Stays.first {tree : ListedTree} {directory : Nat} {name : Text} {names : List Text}
    (stays : Stays kernel preserving tree directory (name :: names)) :
    Stays kernel preserving tree directory [name] := by
  rcases stays with ⟨later, entry, there, kept⟩
  exact ⟨names ++ later, entry, there, kept⟩

structure Cleaning (kernel : Kernel) (preserving : List Text) (tree current : ListedTree)
    (directory : Nat) (entityNames : List Text) : Prop where
  extends_ : Extends current.toFileTree tree.toFileTree
  waiting : ∀ name ∈ entityNames, ∀ names, current.nodeAt directory (name :: names) =
    tree.nodeAt directory (name :: names)
  done : ∀ name ∉ entityNames, ∀ names entry,
    current.nodeAt directory (name :: names) = some entry ↔
      tree.nodeAt directory (name :: names) = some entry ∧
        Stays kernel preserving tree directory (name :: names)
  outside : ∀ inode other, (∀ names, tree.nodeAt directory names ≠ some (.directory inode)) →
    current.entries inode other = tree.entries inode other

section Loop

variable {tree current : ListedTree} {directory : Nat} {entityName : Text}
  {entityNames : List Text}

theorem Cleaning.skip
    (cleaning : Cleaning kernel preserving tree current directory (entityName :: entityNames))
    (missing : tree.entries directory entityName = none) :
    Cleaning kernel preserving tree current directory entityNames := by
  refine ⟨cleaning.extends_, fun name member => cleaning.waiting name (List.mem_cons_of_mem _ member),
    ?_, cleaning.outside⟩
  intro name notMember names entry
  by_cases same : name = entityName
  · subst same
    rw [cleaning.waiting name List.mem_cons_self, nodeAt_cons_none missing]
    simp
  · exact cleaning.done name (by simp [same, notMember]) names entry

theorem Cleaning.step {next : ListedTree}
    (cleaning : Cleaning kernel preserving tree current directory (entityName :: entityNames))
    (isTree : tree.IsTree directory) (notAgain : entityName ∉ entityNames)
    (shrunk : Extends next.toFileTree current.toFileTree)
    (cleaned : Cleaned kernel preserving current next directory entityName) :
    Cleaning kernel preserving tree next directory entityNames := by
  have siblings : ∀ name, name ≠ entityName → ∀ names,
      next.nodeAt directory (name :: names) = current.nodeAt directory (name :: names) :=
    fun name different => (isTree.mono cleaning.extends_).nodeAt_sibling different cleaned.outside
  refine ⟨shrunk.trans cleaning.extends_, ?_, ?_, ?_⟩
  · intro name member names
    rw [siblings name (ne_of_mem_of_not_mem member notAgain),
      cleaning.waiting name (List.mem_cons_of_mem _ member)]
  · intro name notMember names entry
    by_cases same : name = entityName
    · subst same
      have waited := cleaning.waiting name List.mem_cons_self
      rw [cleaned.stays, waited, stays_congr fun later => waited (names ++ later)]
    · rw [siblings name same]
      exact cleaning.done name (by simp [same, notMember]) names entry
  · intro inode other outside
    rw [cleaned.outside inode other, cleaning.outside inode other outside]
    · intro same
      cases same
      exact outside [] rfl
    · intro names inside
      exact outside _ (cleaning.extends_.nodeAt inside)

end Loop

def Cleans (kernel : Kernel) (preserving : List Text)
    (clean : Text → ListedTree → Option (Result Unit × ListedTree)) : Prop :=
  ∀ path tree after parent name, tree.place path = some (parent, name) → IsName name →
    tree.IsTreeIn parent name → clean path tree = some (.ok (), after) →
      Cleaned kernel preserving tree after parent name

theorem Cleaning.run {clean : Text → ListedTree → Option (Result Unit × ListedTree)}
    (extends_ : ∀ path tree result after, clean path tree = some (result, after) →
      Extends after.toFileTree tree.toFileTree)
    (cleans : Cleans kernel preserving clean) {path : Text} {tree current after : ListedTree}
    {parent directory : Nat} {name : Text} {entityNames : List Text}
    (isTree : tree.IsTree directory) (nodup : entityNames.Nodup)
    (listed : ∀ entity ∈ entityNames,
      entity = ['.'] ∨ entity = ['.', '.'] ∨ entity ∈ tree.names directory)
    (placed : after.place path = some (parent, name)) (named : IsName name)
    (there : after.entries parent name = some (.directory directory))
    (cleaning : Cleaning kernel preserving tree current directory entityNames)
    (ran : cleanEntities clean path entityNames current = some (.ok (), after)) :
    Cleaning kernel preserving tree after directory [] := by
  induction entityNames generalizing current with
  | nil =>
      cases ran
      exact cleaning
  | cons entityName entityNames induction =>
      rw [List.forall_mem_cons] at listed
      rw [List.nodup_cons] at nodup
      rw [cleanEntities] at ran
      split at ran
      · next dots =>
        refine induction nodup.2 listed.2 (cleaning.skip ?_) ran
        by_contra present
        have isName := (tree.isName directory _ ((tree.mem_names _ _).mpr present)).1
        rcases dots with dot | dots
        · exact isName.1 (.inr dot)
        · exact isName.2 dots
      next notDots =>
      rw [not_or] at notDots
      dsimp only at ran
      split at ran
      · cases ran
      · cases ran
      · next next cleaned =>
        have shrunk := extends_ _ _ _ _ cleaned
        have smaller : Extends after.toFileTree current.toFileTree :=
          (cleanEntities_extends extends_ ran).trans shrunk
        have isEntity := tree.isName directory entityName
          ((listed.1.resolve_left notDots.1).resolve_left notDots.2)
        have place := place_append (smaller.place placed) named (smaller.entries there) isEntity.2
        have isTreeIn := (isTree.mono cleaning.extends_).child entityName
        exact induction nodup.2 listed.2 (cleaning.step isTree nodup.1 shrunk
          (cleans _ _ _ _ _ place isEntity.1 isTreeIn cleaned)) ran

section Place

variable {tree after : ListedTree} {parent : Nat} {name : Text}

theorem Cleaned.of_preserved (kept : name ∈ preserving) :
    Cleaned kernel preserving tree tree parent name := by
  refine ⟨fun names entry => ?_, fun _ _ _ _ => rfl⟩
  refine (and_iff_left_of_imp fun there => ?_).symm
  exact ⟨[], entry, by rw [List.append_nil, there], .inl ⟨name, by simp, kept⟩⟩

theorem Cleaned.of_missing (missing : tree.entries parent name = none) :
    Cleaned kernel preserving tree tree parent name := by
  refine ⟨fun names entry => ?_, fun _ _ _ _ => rfl⟩
  simp [nodeAt_cons_none missing]

theorem Cleaned.of_remove {between : ListedTree}
    (same : ∀ directory other, (directory, other) ≠ (parent, name) →
      tree.Outside parent name directory →
        between.entries directory other = tree.entries directory other)
    (nothing : ¬ Stays kernel preserving tree parent [name]) :
    Cleaned kernel preserving tree (between.remove parent name) parent name := by
  constructor
  · intro names entry
    rw [nodeAt_cons_none (ListedTree.remove_entries_self _ _ _)]
    refine iff_of_false (by simp) fun there => ?_
    exact nothing there.2.first
  · intro directory other different outside
    rw [ListedTree.remove_entries_of_ne different, same directory other different outside]

theorem Cleaned.of_leaf {entry : Entry} (there : tree.entries parent name = some entry)
    (leaf : ∀ inode, entry ≠ .directory inode) (notKept : name ∉ preserving) :
    Cleaned kernel preserving tree (tree.remove parent name) parent name := by
  refine Cleaned.of_remove (fun _ _ _ _ => rfl) ?_
  rintro ⟨later, found, below, kept⟩
  rw [List.singleton_append, nodeAt_cons_leaf there leaf] at below
  split at below
  · next empty =>
    rw [List.isEmpty_iff.mp empty] at kept
    cases below
    rcases kept with ⟨other, member, kept⟩ | ⟨directory, isDirectory, -⟩
    · rw [List.append_nil, List.mem_singleton] at member
      exact notKept (member ▸ kept)
    · exact leaf directory isDirectory
  · cases below

theorem stays_directory_iff {directory : Nat}
    (there : tree.entries parent name = some (.directory directory)) (notKept : name ∉ preserving) :
    Stays kernel preserving tree parent [name] ↔ kernel.Holds (.directory directory) ∨
      ∃ child, tree.entries directory child ≠ none ∧
        Stays kernel preserving tree directory [child] := by
  constructor
  · rintro ⟨later, entry, below, kept⟩
    rw [List.singleton_append, nodeAt_cons_directory there] at below
    cases later with
    | nil =>
        cases below
        rcases kept with ⟨other, member, kept⟩ | held
        · rw [List.append_nil, List.mem_singleton] at member
          exact absurd (member ▸ kept) notKept
        · exact .inl held
    | cons child later =>
        refine .inr ⟨child, entries_ne_none_of_nodeAt below, later, entry, below, ?_⟩
        simpa [notKept] using kept
  · rintro (held | ⟨child, -, stays⟩)
    · exact ⟨[], .directory directory, by rw [List.append_nil, nodeAt_singleton, there], .inr held⟩
    · rw [← stays_cons there notKept] at stays
      exact stays.first

theorem Cleaned.of_directory {directory : Nat} {between : ListedTree}
    (isTreeIn : tree.IsTreeIn parent name)
    (there : tree.entries parent name = some (.directory directory)) (notKept : name ∉ preserving)
    (cleaning : Cleaning kernel preserving tree between directory [])
    (left : (after = between.remove parent name ∧ between.names directory = [] ∧
        ¬ kernel.Holds (.directory directory)) ∨
      (after = between ∧
        (kernel.Holds (.directory directory) ∨ between.names directory ≠ []))) :
    Cleaned kernel preserving tree after parent name := by
  have outside : ∀ inode other, tree.Outside parent name inode →
      between.entries inode other = tree.entries inode other := by
    intro inode other isOutside
    apply cleaning.outside inode other
    intro names inside
    rw [← nodeAt_cons_directory there] at inside
    exact isOutside names inside
  -- what stays below the directory is what the loop has left in it
  have stays_iff : Stays kernel preserving tree parent [name] ↔
      kernel.Holds (.directory directory) ∨ between.names directory ≠ [] := by
    rw [stays_directory_iff there notKept]
    refine or_congr_right ⟨?_, ?_⟩
    · rintro ⟨child, present, stays⟩ empty
      cases found : tree.entries directory child with
      | none => exact present found
      | some entry =>
          have kept := (cleaning.done child List.not_mem_nil [] entry).mpr
            ⟨by rw [nodeAt_singleton, found], stays⟩
          have listed := (between.mem_names directory child).mpr (entries_ne_none_of_nodeAt kept)
          rw [empty] at listed
          cases listed
    · intro nonempty
      rcases List.exists_mem_of_ne_nil _ nonempty with ⟨child, listed⟩
      cases found : between.entries directory child with
      | none => exact absurd found ((between.mem_names directory child).mp listed)
      | some entry =>
          rw [← nodeAt_singleton, cleaning.done child List.not_mem_nil] at found
          exact ⟨child, entries_ne_none_of_nodeAt found.1, found.2⟩
  rcases left with ⟨rfl, empty, free⟩ | ⟨rfl, holds⟩
  · refine Cleaned.of_remove (fun inode other _ isOutside => outside inode other isOutside) ?_
    rw [stays_iff]
    exact fun holds => holds.elim free fun nonempty => nonempty empty
  · refine ⟨?_, fun inode other _ isOutside => outside inode other isOutside⟩
    have stillThere : after.entries parent name = some (.directory directory) := by
      rw [outside parent name isTreeIn.outside, there]
    intro names entry
    cases names with
    | nil =>
        rw [nodeAt_singleton, nodeAt_singleton, stillThere, there]
        exact (and_iff_left (stays_iff.mpr holds)).symm
    | cons child names =>
        rw [nodeAt_cons_directory stillThere, nodeAt_cons_directory there,
          stays_cons there notKept]
        exact cleaning.done child List.not_mem_nil names entry

end Place

theorem Cleaning.start {tree : ListedTree} (directory : Nat) :
    Cleaning kernel preserving tree tree directory
      (['.'] :: ['.', '.'] :: tree.names directory) := by
  refine ⟨.refl _, fun _ _ _ => rfl, fun name notListed names entry => ?_, fun _ _ _ => rfl⟩
  have missing : tree.entries directory name = none := by
    by_contra present
    have listed := (tree.mem_names directory name).mpr present
    exact notListed (List.mem_cons_of_mem _ (List.mem_cons_of_mem _ listed))
  simp [nodeAt_cons_none missing]

theorem nodup_listed (tree : ListedTree) (directory : Nat) :
    (['.'] :: ['.', '.'] :: tree.names directory).Nodup := by
  have notListed : ∀ name, ¬ IsName name → name ∉ tree.names directory :=
    fun name notName member => notName (tree.isName directory name member).1
  refine List.nodup_cons.mpr ⟨?_, List.nodup_cons.mpr ⟨?_, tree.nodup_names directory⟩⟩
  · rw [List.mem_cons, not_or]
    exact ⟨by decide, notListed _ (by decide)⟩
  · exact notListed _ (by decide)

theorem cleanPriorFiles_cleans (fuel : Nat) :
    Cleans kernel preserving (cleanPriorFiles kernel preserving fuel) := by
  induction fuel with
  | zero =>
      intro path tree after parent name _ _ _ ok
      cases ok
  | succ fuel induction =>
      intro path tree after parent name placed named isTreeIn ok
      rcases basename_of_place placed named with ⟨isLast, plain⟩
      have found := lstat_of_place placed named
      rcases cleanPriorFiles_cases ok with ⟨kept, rfl⟩ | ⟨notKept, ⟨rfl, missing⟩ |
        ⟨entry, isEntry, leaf, removed⟩ |
        ⟨directory, entityNames, entered, between, isEntry, opened, entities, left⟩⟩
      · exact .of_preserved (isLast ▸ kept)
      · exact .of_missing (found.symm.trans (missing rfl))
      · rcases Kernel.unlink_eq_ok (removeFile_ok removed) with ⟨other, last, place, rfl⟩
        cases placed.symm.trans place
        exact .of_leaf (found.symm.trans isEntry) leaf (isLast ▸ notKept)
      · rw [isLast] at notKept
        have there := found.symm.trans isEntry
        rcases left with ⟨failed, ok, -⟩ | ⟨rfl, removed⟩
        · exact absurd ok.symm failed
        have shrunk : Extends between.toFileTree tree.toFileTree :=
          cleanEntities_extends (fun _ _ _ _ => cleanPriorFiles_extends) entities
        have names := Kernel.opendir_of_place placed named there opened
        have isName : ∀ otherParent other, between.place path = some (otherParent, other) →
            IsName other := by
          intro otherParent other place
          cases placed.symm.trans (shrunk.place place)
          exact named
        have ended := removeDirectory_ok removed
        rcases @Kernel.rmdir_cases kernel _ _ plain isName with missing | failed |
          ⟨otherParent, other, inner, place, still, outcome⟩
        · simp [missing, isTolerated] at ended
        · simp [failed, isTolerated] at ended
        -- the path still leads to the directory, so it did all the time
        cases placed.symm.trans (shrunk.place place)
        cases there.symm.trans (shrunk.entries still)
        have cleaning : Cleaning kernel preserving tree between directory [] := by
          refine Cleaning.run (fun _ _ _ _ => cleanPriorFiles_extends) induction
            (isTreeIn.isTree directory there) (nodup_listed tree directory) ?_ place named still
            (.start directory) (names ▸ entities)
          simp
        refine .of_directory isTreeIn there notKept cleaning ?_
        rcases outcome with ⟨gone, empty, free⟩ | ⟨errno, refused, holds⟩
        · simp only [gone, Except.ok.injEq, reduceCtorEq, false_and, exists_false, or_false] at ended
          exact .inl ⟨ended.symm, empty, free⟩
        · simp only [refused, reduceCtorEq, false_or] at ended
          rcases ended with ⟨_, -, -, same⟩
          exact .inr ⟨same, holds⟩

theorem cleanPriorFiles_removes_unpreserved {path name : Text} {tree : ListedTree}
    {parent height : Nat} (placed : tree.place path = some (parent, name)) (named : IsName name)
    (isTreeIn : tree.IsTreeIn parent name)
    (isHeight : ∀ names, tree.nodeAt parent (name :: names) ≠ none → names.length ≤ height) :
    ∃ result after,
      cleanPriorFiles kernel preserving (height + 1) path tree = some (result, after) ∧
      (result = .ok () →
        (∀ names entry, after.nodeAt parent (name :: names) = some entry ↔
          tree.nodeAt parent (name :: names) = some entry ∧
            Stays kernel preserving tree parent (name :: names)) ∧
        (∀ directory other, (directory, other) ≠ (parent, name) →
          tree.Outside parent name directory →
            after.entries directory other = tree.entries directory other) ∧
        after.parent = tree.parent ∧ after.root = tree.root ∧ after.current = tree.current) := by
  have fits : Fits (height + 1) path tree := by
    refine ⟨Nat.succ_pos _, ?_, ?_⟩
    · intro otherParent other place
      cases placed.symm.trans place
      exact named
    · intro otherParent other place
      cases placed.symm.trans place
      exact fun names there => Nat.lt_succ_iff.mpr (isHeight names there)
  have returns : cleanPriorFiles kernel preserving (height + 1) path tree ≠ none :=
    cleanPriorFiles_ne_none fits
  obtain ⟨⟨result, after⟩, ran⟩ := Option.ne_none_iff_exists'.mp returns
  refine ⟨result, after, ran, fun ok => ?_⟩
  subst ok
  have shrunk := cleanPriorFiles_extends ran
  have cleaned := cleanPriorFiles_cleans _ _ _ _ _ _ placed named isTreeIn ran
  exact ⟨cleaned.stays, cleaned.outside, shrunk.parent.symm, shrunk.root.symm,
    shrunk.current.symm⟩

/-! ## Several paths -/

theorem cleanEach_extends {fuel : Nat} {paths : List Text} {tree after : ListedTree}
    {result : Result Unit}
    (ran : cleanEach kernel preserving fuel paths tree = some (result, after)) :
    Extends after.toFileTree tree.toFileTree := by
  induction paths generalizing tree with
  | nil =>
      cases ran
      exact .refl _
  | cons path paths induction =>
      rw [cleanEach] at ran
      split at ran
      · cases ran
      · next cleaned =>
        cases ran
        exact cleanPriorFiles_extends cleaned
      · next cleaned => exact (induction ran).trans (cleanPriorFiles_extends cleaned)

theorem cleanPaths_cases {lsof : List Text × List Text → Option Text} {fuel : Nat}
    {paths : List Text} {tree after : ListedTree} {result : Result Unit}
    (ran : cleanPaths kernel preserving lsof fuel paths tree = some (result, after)) :
    (result ≠ .ok () ∧ after = tree) ∨
      cleanEach kernel preserving fuel paths tree = some (result, after) := by
  rw [cleanPaths] at ran
  split at ran
  · cases ran
    exact .inl ⟨by simp, rfl⟩
  dsimp only at ran
  split at ran
  · cases ran
    exact .inl ⟨by simp, rfl⟩
  · exact .inr ran

/-- Whatever `lsof` prints, and whatever fails, files are only removed. -/
theorem cleanPaths_extends {lsof : List Text × List Text → Option Text} {fuel : Nat}
    {paths : List Text} {tree after : ListedTree} {result : Result Unit}
    (ran : cleanPaths kernel preserving lsof fuel paths tree = some (result, after)) :
    Extends after.toFileTree tree.toFileTree := by
  rcases cleanPaths_cases ran with ⟨-, rfl⟩ | each
  · exact .refl _
  · exact cleanEach_extends each

/-! ## Small trees -/

def nested : ListedTree :=
  .ofContents [[("r".toList, .directory 1), ("x".toList, .file 9)],
      [("a".toList, .directory 2), ("l".toList, .link "/x".toList)], [("k".toList, .file 7)]]
    Nat.pred (by decide) (by decide)

def free : Kernel := ⟨fun _ _ _ => false, fun _ => false, fun _ => false, fun _ => ""⟩

def mountPoint : ListedTree :=
  .ofContents [[("r".toList, .directory 1)], []] Nat.pred (by decide) (by decide)

theorem cleanPaths_extends_removed :
    Extends (mountPoint.remove 0 "r".toList).toFileTree mountPoint.toFileTree := by
  have ran : cleanPaths free [] (fun _ => none) 1 ["/r".toList] mountPoint =
      some (.ok (), mountPoint.remove 0 "r".toList) := rfl
  exact cleanPaths_extends ran

def mounted : Kernel := ⟨fun _ _ _ => false, fun directory => directory = 1, fun _ => false, fun _ => ""⟩

/-- The directory is left although nothing is preserved. -/
theorem mountPoint_left :
    ∃ after, cleanPriorFiles mounted [] 1 "/r".toList mountPoint = some (.ok (), after) ∧
      ¬ ∀ names entry, after.nodeAt 0 ("r".toList :: names) = some entry ↔
        mountPoint.nodeAt 0 ("r".toList :: names) = some entry ∧
          ∃ later below, mountPoint.nodeAt 0 ("r".toList :: names ++ later) = some below ∧
            ∃ name ∈ "r".toList :: names ++ later, name ∈ ([] : List Text) := by
  refine ⟨mountPoint, rfl, fun exactly => ?_⟩
  rcases ((exactly [] (.directory 1)).mp rfl).2 with ⟨later, below, -, name, -, kept⟩
  cases kept

theorem nested_directory {names : List Text} {inode : Nat}
    (there : nested.nodeAt 1 names = some (.directory inode)) :
    (names = [] ∧ inode = 1) ∨ (names = ["a".toList] ∧ inode = 2) := by
  cases names with
  | nil =>
      cases there
      exact .inl ⟨rfl, rfl⟩
  | cons name names =>
      rcases exists_directory_of_nodeAt there (.inr ⟨inode, rfl⟩) with ⟨first, isFirst, rest⟩
      have member := ListedTree.mem_of_entries_ofContents isFirst
      have isA : name = "a".toList ∧ first = 2 := by simpa using member
      rw [isA.2] at rest
      cases names with
      | nil =>
          cases rest
          exact .inr ⟨by rw [isA.1], rfl⟩
      | cons second names =>
          rcases exists_directory_of_nodeAt rest (.inr ⟨inode, rfl⟩) with ⟨deeper, isSecond, -⟩
          have none_ := ListedTree.mem_of_entries_ofContents isSecond
          simp at none_

theorem nested_height {names : List Text} (there : nested.nodeAt 1 names ≠ none) :
    names.length ≤ 2 := by
  rcases Option.ne_none_iff_exists'.mp there with ⟨entry, found⟩
  rcases names with _ | ⟨first, _ | ⟨second, _ | ⟨third, names⟩⟩⟩
  · simp
  · simp
  · simp
  · rcases exists_directory_of_nodeAt found (.inl (by simp)) with ⟨inode, isFirst, rest⟩
    have isA := ListedTree.mem_of_entries_ofContents isFirst
    have isTwo : inode = 2 := by simp at isA; exact isA.2
    rw [isTwo] at rest
    rcases exists_directory_of_nodeAt rest (.inl (by simp)) with ⟨deeper, isSecond, -⟩
    have none_ := ListedTree.mem_of_entries_ofContents isSecond
    simp at none_

theorem cleanPriorFiles_removes_unpreserved_nested :
    ∃ result after,
      cleanPriorFiles free ["k".toList] 3 "/r".toList nested = some (result, after) ∧
      (result = .ok () →
        (∀ names entry, after.nodeAt 0 ("r".toList :: names) = some entry ↔
          nested.nodeAt 0 ("r".toList :: names) = some entry ∧
            Stays free ["k".toList] nested 0 ("r".toList :: names)) ∧
        (∀ directory other, (directory, other) ≠ (0, "r".toList) →
          nested.Outside 0 "r".toList directory →
            after.entries directory other = nested.entries directory other) ∧
        after.parent = nested.parent ∧ after.root = nested.root ∧
          after.current = nested.current) := by
  have isTreeIn : nested.IsTreeIn 0 "r".toList := by
    constructor
    · intro directory there names other inode first second
      cases there
      rcases nested_directory first with ⟨isFirst, same⟩ | ⟨isFirst, same⟩ <;>
        rcases nested_directory second with ⟨isSecond, again⟩ | ⟨isSecond, again⟩ <;>
        simp_all
    · intro names there
      rcases nested_directory there with ⟨-, same⟩ | ⟨-, same⟩ <;> cases same
  exact cleanPriorFiles_removes_unpreserved rfl (by decide) isTreeIn fun names => nested_height

end Cuttlefish.AssembleCvd.Clean
