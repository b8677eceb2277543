import Cuttlefish.Foundation.Decimal
import Mathlib.Data.List.DropRight
import Mathlib.Logic.Function.Basic

/-! # Directories and links

A tree of files as system calls see it: paths are walked entry by entry, through directories and
through symbolic links, of which at most forty are followed. -/

namespace Cuttlefish

inductive Entry
  | file (inode : Nat)
  | directory (inode : Nat)
  | link (content : Text)
  deriving DecidableEq

structure FileTree where
  entries : Nat → Text → Option Entry
  parent : Nat → Nat
  root : Nat
  current : Nat
  next : Nat

namespace FileTree

variable (tree : FileTree)

def start (directory : Nat) (path : Text) : Nat :=
  if path.head? = some '/' then tree.root else directory

def components (path : Text) : List Text := path.splitOn '/'

def IsDot (name : Text) : Prop := name = [] ∨ name = ['.']

instance (name : Text) : Decidable (IsDot name) := inferInstanceAs (Decidable (_ ∨ _))

/-- Follows names from a directory on. What is behind a link is left to `follow`. -/
def walkNames (follow : Nat → List Text → Option Entry) (directory : Nat) : List Text → Option Entry
  | [] => some (.directory directory)
  | name :: names =>
      if IsDot name then walkNames follow directory names
      else if name = ['.', '.'] then walkNames follow (tree.parent directory) names
      else
        match tree.entries directory name with
        | none => none
        | some (.file inode) => if names = [] then some (.file inode) else none
        | some (.directory inode) => walkNames follow inode names
        | some (.link content) => follow (tree.start directory content) (components content ++ names)

def walk : Nat → Nat → List Text → Option Entry
  | 0 => tree.walkNames fun _ _ => none
  | links + 1 => tree.walkNames (walk links)

def maxLinks : Nat := 40

def stat (path : Text) : Option Entry :=
  if path = [] then none
  else tree.walk maxLinks (tree.start tree.current path) (components path)

/-- The directory and the name in it that a path ends in. -/
def place (path : Text) : Option (Nat × Text) :=
  if path = [] then none
  else
    match tree.walk maxLinks (tree.start tree.current path) (components path).dropLast with
    | some (.directory directory) => some (directory, (components path).getLast?.getD [])
    | _ => none

def lstat (path : Text) : Option Entry :=
  match tree.place path with
  | none => none
  | some (directory, name) =>
      if IsDot name then some (.directory directory)
      else if name = ['.', '.'] then some (.directory (tree.parent directory))
      else tree.entries directory name

def IsName (name : Text) : Prop := ¬ IsDot name ∧ name ≠ ['.', '.']

instance (name : Text) : Decidable (IsName name) := inferInstanceAs (Decidable (_ ∧ _))

def setEntry (directory : Nat) (name : Text) (entry : Option Entry) : FileTree :=
  { tree with
    entries := Function.update tree.entries directory
      (Function.update (tree.entries directory) name entry) }

def unlink (path : Text) : Option FileTree :=
  match tree.place path with
  | none => none
  | some (directory, name) =>
      if IsName name then
        match tree.entries directory name with
        | some (.file _) | some (.link _) => some (tree.setEntry directory name none)
        | some (.directory _) | none => none
      else none

/-- A new entry; none where there is an entry already. -/
def create (path : Text) (entry : Entry) : Option FileTree :=
  match tree.place path with
  | none => none
  | some (directory, name) =>
      if IsName name ∧ tree.entries directory name = none then
        some (tree.setEntry directory name (some entry))
      else none

def symlink (content path : Text) : Option FileTree :=
  if content = [] then none else tree.create path (.link content)

def mkdir (path : Text) : Option FileTree :=
  let path := path.rdropWhile (· = '/')
  match tree.place path with
  | none => none
  | some (directory, _) =>
      (tree.create path (.directory tree.next)).map fun created =>
        { created with
          entries := Function.update created.entries tree.next fun _ => none
          parent := Function.update created.parent tree.next directory
          next := tree.next + 1 }

/-! ## The last name of a path -/

def Names (directory : Nat) (name : Text) : Prop :=
  IsName name → tree.entries directory name ≠ none

variable {tree}

theorem walkNames_concat {follow : Nat → List Text → Option Entry} {last : Text}
    (follows : ∀ {directory names entry}, follow directory (names ++ [last]) = some entry →
      ∃ inode, follow directory names = some (.directory inode) ∧ tree.Names inode last)
    {directory : Nat} {names : List Text} {entry : Entry}
    (walked : tree.walkNames follow directory (names ++ [last]) = some entry) :
    ∃ inode, tree.walkNames follow directory names = some (.directory inode) ∧
      tree.Names inode last := by
  induction names generalizing directory with
  | nil =>
      refine ⟨directory, rfl, fun named missing => ?_⟩
      rw [List.nil_append, walkNames, if_neg named.1, if_neg named.2, missing] at walked
      cases walked
  | cons name names induction =>
      rw [List.cons_append, walkNames] at walked
      rw [walkNames]
      split
      · rename_i dot
        rw [if_pos dot] at walked
        exact induction walked
      · rename_i notDot
        rw [if_neg notDot] at walked
        split
        · rename_i dots
          rw [if_pos dots] at walked
          exact induction walked
        · rename_i notDots
          rw [if_neg notDots] at walked
          cases found : tree.entries directory name with
          | none =>
              rw [found] at walked
              cases walked
          | some between =>
              rw [found] at walked
              cases between with
              | file inode => simp at walked
              | directory inode => exact induction walked
              | link content =>
                  apply follows
                  rw [List.append_assoc]
                  exact walked

theorem walk_concat {links directory : Nat} {names : List Text} {last : Text} {entry : Entry}
    (walked : tree.walk links directory (names ++ [last]) = some entry) :
    ∃ inode, tree.walk links directory names = some (.directory inode) ∧
      tree.Names inode last := by
  induction links generalizing directory names entry with
  | zero =>
      apply walkNames_concat _ walked
      intro directory names entry found
      cases found
  | succ links induction =>
      apply walkNames_concat _ walked
      intro directory names entry found
      exact induction found

theorem components_ne_nil (path : Text) : components path ≠ [] := List.splitOn_ne_nil _ _

theorem lstat_ne_none {path : Text} {entry : Entry} (found : tree.stat path = some entry) :
    tree.lstat path ≠ none := by
  rw [stat] at found
  split at found
  · cases found
  · rename_i nonempty
    have parts : (components path).dropLast ++ [(components path).getLast (components_ne_nil path)] =
        components path := List.dropLast_append_getLast _
    rw [← parts] at found
    rcases walk_concat found with ⟨inode, walked, named⟩
    have placed : tree.place path =
        some (inode, (components path).getLast (components_ne_nil path)) := by
      rw [place, if_neg nonempty, walked, List.getLast?_eq_getLast_of_ne_nil (components_ne_nil path)]
      rfl
    rw [lstat, placed]
    dsimp only
    split
    · simp
    · rename_i notDot
      split
      · simp
      · rename_i notDots
        exact named ⟨notDot, notDots⟩

/-! ## Trees with more entries -/

/-- The larger tree has all the entries of the smaller one. -/
structure Extends (smaller larger : FileTree) : Prop where
  entries : ∀ {directory name entry}, smaller.entries directory name = some entry →
    larger.entries directory name = some entry
  parent : larger.parent = smaller.parent
  root : larger.root = smaller.root
  current : larger.current = smaller.current

variable {smaller larger : FileTree}

theorem Extends.start (extends_ : Extends smaller larger) (directory : Nat) (path : Text) :
    larger.start directory path = smaller.start directory path := by
  rw [FileTree.start, FileTree.start, extends_.root]

theorem Extends.walkNames (extends_ : Extends smaller larger)
    {follow followMore : Nat → List Text → Option Entry}
    (follows : ∀ {directory names entry}, follow directory names = some entry →
      followMore directory names = some entry)
    {directory : Nat} {names : List Text} {entry : Entry}
    (walked : smaller.walkNames follow directory names = some entry) :
    larger.walkNames followMore directory names = some entry := by
  induction names generalizing directory with
  | nil => exact walked
  | cons name names induction =>
      rw [FileTree.walkNames] at walked ⊢
      split
      · rename_i dot
        rw [if_pos dot] at walked
        exact induction walked
      · rename_i notDot
        rw [if_neg notDot] at walked
        split
        · rename_i dots
          rw [if_pos dots] at walked
          rw [extends_.parent]
          exact induction walked
        · rename_i notDots
          rw [if_neg notDots] at walked
          cases found : smaller.entries directory name with
          | none =>
              rw [found] at walked
              cases walked
          | some between =>
              rw [found] at walked
              rw [extends_.entries found]
              cases between with
              | file inode => exact walked
              | directory inode => exact induction walked
              | link content =>
                  apply follows
                  rw [extends_.start]
                  exact walked

theorem Extends.walk (extends_ : Extends smaller larger) {links directory : Nat}
    {names : List Text} {entry : Entry}
    (walked : smaller.walk links directory names = some entry) :
    larger.walk links directory names = some entry := by
  induction links generalizing directory names entry with
  | zero => exact extends_.walkNames id walked
  | succ links induction => exact extends_.walkNames induction walked

theorem Extends.place (extends_ : Extends smaller larger) {path : Text} {found : Nat × Text}
    (placed : smaller.place path = some found) : larger.place path = some found := by
  rw [FileTree.place] at placed ⊢
  split
  · rename_i empty
    rw [if_pos empty] at placed
    cases placed
  · rename_i named
    rw [if_neg named] at placed
    rw [extends_.current, extends_.start]
    split at placed
    · rename_i directory walked
      rw [extends_.walk walked]
      exact placed
    · cases placed

/-! ## Changed entries -/

@[simp] theorem setEntry_entries_self (directory : Nat) (name : Text) (entry : Option Entry) :
    (tree.setEntry directory name entry).entries directory name = entry := by
  simp [setEntry]

theorem setEntry_setEntry (directory : Nat) (name : Text) (first second : Option Entry) :
    (tree.setEntry directory name first).setEntry directory name second =
      tree.setEntry directory name second := by
  simp [setEntry]

theorem setEntry_self {directory : Nat} {name : Text} {entry : Option Entry}
    (same : tree.entries directory name = entry) : tree.setEntry directory name entry = tree := by
  rw [← same, setEntry, Function.update_eq_self, Function.update_eq_self]

theorem extends_setEntry_none (directory : Nat) (name : Text) :
    Extends (tree.setEntry directory name none) tree := by
  refine ⟨?_, rfl, rfl, rfl⟩
  intro otherDirectory otherName entry found
  by_cases sameDirectory : otherDirectory = directory
  · subst sameDirectory
    by_cases sameName : otherName = name
    · subst sameName
      rw [setEntry_entries_self] at found
      cases found
    · simpa [setEntry, sameName] using found
  · simpa [setEntry, sameDirectory] using found

theorem extends_setEntry_some {directory : Nat} {name : Text}
    (missing : tree.entries directory name = none) (entry : Entry) :
    Extends tree (tree.setEntry directory name (some entry)) := by
  have undone : (tree.setEntry directory name (some entry)).setEntry directory name none = tree := by
    rw [setEntry_setEntry, setEntry_self missing]
  have extends_ : Extends ((tree.setEntry directory name (some entry)).setEntry directory name none)
      (tree.setEntry directory name (some entry)) := extends_setEntry_none directory name
  rwa [undone] at extends_

/-! ## Links that are made -/

theorem lstat_of_place {path name : Text} {directory : Nat}
    (placed : tree.place path = some (directory, name)) (named : IsName name) :
    tree.lstat path = tree.entries directory name := by
  rw [lstat, placed]
  simp [named.1, named.2]

theorem symlink_eq_some {content path : Text} {made : FileTree}
    (linked : tree.symlink content path = some made) :
    ∃ directory name, tree.place path = some (directory, name) ∧ IsName name ∧
      tree.entries directory name = none ∧
      made = tree.setEntry directory name (some (.link content)) := by
  rw [symlink] at linked
  split at linked
  · cases linked
  · rw [create] at linked
    split at linked
    · cases linked
    · rename_i directory name placed
      split at linked
      · rename_i free
        exact ⟨directory, name, placed, free.1, free.2, (Option.some.inj linked).symm⟩
      · cases linked

theorem symlink_of_lstat {path : Text} {entry : Entry} (there : tree.lstat path = some entry)
    (content : Text) : tree.symlink content path = none := by
  cases linked : tree.symlink content path with
  | none => rfl
  | some made =>
      rcases symlink_eq_some linked with ⟨directory, name, placed, named, free, -⟩
      rw [lstat_of_place placed named, free] at there
      cases there

theorem lstat_symlink {content path : Text} {made : FileTree}
    (linked : tree.symlink content path = some made) : made.lstat path = some (.link content) := by
  rcases symlink_eq_some linked with ⟨directory, name, placed, named, free, rfl⟩
  rw [lstat_of_place ((extends_setEntry_some free _).place placed) named, setEntry_entries_self]

theorem unlink_eq_some {path : Text} {removed : FileTree}
    (unlinked : tree.unlink path = some removed) :
    ∃ directory name, tree.place path = some (directory, name) ∧ IsName name ∧
      removed = tree.setEntry directory name none := by
  rw [unlink] at unlinked
  split at unlinked
  · cases unlinked
  · rename_i directory name placed
    split at unlinked
    · rename_i named
      split at unlinked
      · exact ⟨directory, name, placed, named, (Option.some.inj unlinked).symm⟩
      · exact ⟨directory, name, placed, named, (Option.some.inj unlinked).symm⟩
      · cases unlinked
      · cases unlinked
    · cases unlinked

theorem symlink_unlink {content path : Text} {removed made : FileTree}
    (unlinked : tree.unlink path = some removed) (linked : removed.symlink content path = some made)
    (before : tree.lstat path = some (.link content)) : made = tree := by
  rcases unlink_eq_some unlinked with ⟨directory, name, placed, named, rfl⟩
  rcases symlink_eq_some linked with ⟨otherDirectory, otherName, placedAgain, -, -, rfl⟩
  have same : (directory, name) = (otherDirectory, otherName) :=
    Option.some.inj (placed.symm.trans ((extends_setEntry_none _ _).place placedAgain))
  cases same
  rw [setEntry_setEntry]
  rw [lstat_of_place placed named] at before
  exact setEntry_self before

end FileTree

end Cuttlefish
