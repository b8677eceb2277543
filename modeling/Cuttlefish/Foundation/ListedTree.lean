import Cuttlefish.Foundation.FileTree

/-! # Trees whose directories are listed

What is below a directory, and the system calls that list it and remove from it. -/

namespace Cuttlefish

namespace FileTree

variable {tree smaller larger : FileTree}

/-! ## What is below a directory -/

/-- The entry that names lead to through directories, without following links. -/
def nodeAt (tree : FileTree) (directory : Nat) : List Text → Option Entry
  | [] => some (.directory directory)
  | name :: names =>
      match tree.entries directory name with
      | some (.directory inode) => tree.nodeAt inode names
      | found => if names.isEmpty then found else none

section

attribute [local simp] nodeAt

theorem nodeAt_cons_directory {directory inode : Nat} {name : Text}
    (there : tree.entries directory name = some (.directory inode)) (names : List Text) :
    tree.nodeAt directory (name :: names) = tree.nodeAt inode names := by
  simp [there]

theorem nodeAt_cons_none {directory : Nat} {name : Text}
    (missing : tree.entries directory name = none) (names : List Text) :
    tree.nodeAt directory (name :: names) = none := by
  simp [missing]

theorem nodeAt_cons_leaf {directory : Nat} {name : Text} {entry : Entry}
    (there : tree.entries directory name = some entry)
    (leaf : ∀ inode, entry ≠ .directory inode) (names : List Text) :
    tree.nodeAt directory (name :: names) = if names.isEmpty then some entry else none := by
  rw [nodeAt, there]
  split
  · next inode same => exact absurd (Option.some.inj same) (leaf inode)
  · rfl

@[simp] theorem nodeAt_singleton (directory : Nat) (name : Text) :
    tree.nodeAt directory [name] = tree.entries directory name := by
  rw [nodeAt]
  split
  · next inode there => rw [there, nodeAt]
  · rfl

end

theorem entries_ne_none_of_nodeAt {directory : Nat} {name : Text} {names : List Text}
    {entry : Entry} (there : tree.nodeAt directory (name :: names) = some entry) :
    tree.entries directory name ≠ none := by
  intro missing
  rw [nodeAt_cons_none missing] at there
  cases there

theorem exists_directory_of_nodeAt {directory : Nat} {name : Text} {names : List Text}
    {entry : Entry} (there : tree.nodeAt directory (name :: names) = some entry)
    (inner : names ≠ [] ∨ ∃ inode, entry = .directory inode) :
    ∃ inode, tree.entries directory name = some (.directory inode) ∧
      tree.nodeAt inode names = some entry := by
  rw [nodeAt] at there
  split at there
  · next inode found => exact ⟨inode, found, there⟩
  · next found other =>
    split at there
    · next empty =>
      rcases inner with nonempty | ⟨inode, isDirectory⟩
      · exact absurd (List.isEmpty_iff.mp empty) nonempty
      · exact absurd (isDirectory ▸ there) (other inode)
    · cases there

theorem nodeAt_congr {other : FileTree} {directory : Nat} {names : List Text}
    (same : ∀ front name back inode, names = front ++ name :: back →
      tree.nodeAt directory front = some (.directory inode) →
        other.entries inode name = tree.entries inode name) :
    other.nodeAt directory names = tree.nodeAt directory names := by
  induction names generalizing directory with
  | nil => rfl
  | cons name names induction =>
      have first := same [] name names directory rfl rfl
      cases found : tree.entries directory name with
      | none => rw [nodeAt_cons_none found, nodeAt_cons_none (first.trans found)]
      | some entry =>
          cases entry with
          | directory inode =>
              rw [nodeAt_cons_directory found, nodeAt_cons_directory (first.trans found)]
              apply induction
              intro front later back between split there
              exact same (name :: front) later back between (by rw [split, List.cons_append])
                (by rw [nodeAt_cons_directory found, there])
          | file inode =>
              have leaf : ∀ below, Entry.file inode ≠ .directory below := by simp
              rw [nodeAt_cons_leaf found leaf, nodeAt_cons_leaf (first.trans found) leaf]
          | link content =>
              have leaf : ∀ below, Entry.link content ≠ .directory below := by simp
              rw [nodeAt_cons_leaf found leaf, nodeAt_cons_leaf (first.trans found) leaf]

theorem Extends.nodeAt (extends_ : Extends smaller larger) {directory : Nat} {names : List Text}
    {entry : Entry} (there : smaller.nodeAt directory names = some entry) :
    larger.nodeAt directory names = some entry := by
  induction names generalizing directory with
  | nil => exact there
  | cons name names induction =>
      cases found : smaller.entries directory name with
      | none =>
          rw [nodeAt_cons_none found] at there
          cases there
      | some first =>
          by_cases isDirectory : ∃ inode, first = .directory inode
          · rcases isDirectory with ⟨inode, rfl⟩
            rw [nodeAt_cons_directory found] at there
            rw [nodeAt_cons_directory (extends_.entries found)]
            exact induction there
          · have leaf : ∀ inode, first ≠ .directory inode := fun inode same =>
              isDirectory ⟨inode, same⟩
            rw [nodeAt_cons_leaf found leaf] at there
            rw [nodeAt_cons_leaf (extends_.entries found) leaf, there]

theorem Extends.refl (tree : FileTree) : Extends tree tree := ⟨id, rfl, rfl, rfl⟩

theorem Extends.trans {first second third : FileTree} (lower : Extends first second)
    (upper : Extends second third) : Extends first third :=
  ⟨upper.entries ∘ lower.entries, upper.parent.trans lower.parent, upper.root.trans lower.root,
    upper.current.trans lower.current⟩

/-! ## Paths with one more name -/

theorem walkNames_append {follow : Nat → List Text → Option Entry} {last : Text} {entry : Entry}
    (named : IsName last) (notLink : ∀ content, entry ≠ .link content)
    {inode : Nat} (there : tree.entries inode last = some entry)
    (follows : ∀ {directory names}, follow directory names = some (.directory inode) →
      follow directory (names ++ [last]) = some entry)
    {directory : Nat} {names : List Text}
    (walked : tree.walkNames follow directory names = some (.directory inode)) :
    tree.walkNames follow directory (names ++ [last]) = some entry := by
  induction names generalizing directory with
  | nil =>
      cases walked
      rw [List.nil_append, walkNames, if_neg named.1, if_neg named.2, there]
      cases entry with
      | file inode => rfl
      | directory inode => rfl
      | link content => exact absurd rfl (notLink content)
  | cons name names induction =>
      rw [walkNames] at walked
      rw [List.cons_append, walkNames]
      split
      · next dot =>
        rw [if_pos dot] at walked
        exact induction walked
      next notDot =>
      rw [if_neg notDot] at walked
      split
      · next dots =>
        rw [if_pos dots] at walked
        exact induction walked
      next notDots =>
      rw [if_neg notDots] at walked
      cases found : tree.entries directory name with
      | none =>
          rw [found] at walked
          cases walked
      | some between =>
          rw [found] at walked
          cases between with
          | file other =>
              dsimp only at walked
              split at walked <;> cases walked
          | directory other => exact induction walked
          | link content =>
              dsimp only
              rw [← List.append_assoc]
              exact follows walked

theorem walk_append {links directory inode : Nat} {names : List Text} {last : Text} {entry : Entry}
    (walked : tree.walk links directory names = some (.directory inode)) (named : IsName last)
    (there : tree.entries inode last = some entry) (notLink : ∀ content, entry ≠ .link content) :
    tree.walk links directory (names ++ [last]) = some entry := by
  induction links generalizing directory names with
  | zero =>
      apply walkNames_append named notLink there _ walked
      intro directory names followed
      cases followed
  | succ links induction => exact walkNames_append named notLink there induction walked

theorem place_eq_some {path name : Text} {directory : Nat}
    (placed : tree.place path = some (directory, name)) :
    path ≠ [] ∧ ∃ front, components path = front ++ [name] ∧
      tree.walk maxLinks (tree.start tree.current path) front = some (.directory directory) := by
  rw [place] at placed
  split at placed
  · cases placed
  next nonempty =>
  refine ⟨nonempty, (components path).dropLast, ?_, ?_⟩
  · split at placed
    · have last := congrArg Prod.snd (Option.some.inj placed)
      rw [List.getLast?_eq_getLast_of_ne_nil (components_ne_nil path)] at last
      have parts : (components path).dropLast ++
          [(components path).getLast (components_ne_nil path)] = components path :=
        List.dropLast_append_getLast _
      rw [← parts]
      simpa using last
    · cases placed
  · split at placed
    · next walked =>
      cases placed
      exact walked
    · cases placed

theorem stat_of_place {path name : Text} {directory inode : Nat}
    (placed : tree.place path = some (directory, name)) (named : IsName name)
    (there : tree.entries directory name = some (.directory inode)) :
    tree.stat path = some (.directory inode) := by
  rcases place_eq_some placed with ⟨nonempty, front, parts, walked⟩
  rw [stat, if_neg nonempty, parts]
  exact walk_append walked named there (by simp)

theorem components_append {path name : Text} (plain : '/' ∉ name) :
    components (path ++ '/' :: name) = components path ++ [name] := by
  rw [components, List.splitOn_append_cons_self, List.splitOn_eq_singleton plain]
  rfl

theorem place_append {path name entity : Text} {directory inode : Nat}
    (placed : tree.place path = some (directory, name)) (named : IsName name)
    (there : tree.entries directory name = some (.directory inode)) (plain : '/' ∉ entity) :
    tree.place (path ++ '/' :: entity) = some (inode, entity) := by
  rcases place_eq_some placed with ⟨nonempty, front, parts, walked⟩
  have starts : tree.start tree.current (path ++ '/' :: entity) = tree.start tree.current path := by
    rw [start, start, List.head?_append_of_ne_nil _ nonempty]
  rw [place, if_neg (by simp), starts, components_append plain, List.dropLast_concat, parts,
    walk_append walked named there (by simp)]
  simp

/-! ## Places that are trees -/

def IsTree (tree : FileTree) (directory : Nat) : Prop :=
  ∀ names other inode, tree.nodeAt directory names = some (.directory inode) →
    tree.nodeAt directory other = some (.directory inode) → names = other

/-- The directory is not at the place and not below it. -/
def Outside (tree : FileTree) (parent : Nat) (name : Text) (directory : Nat) : Prop :=
  ∀ names, tree.nodeAt parent (name :: names) ≠ some (.directory directory)

/-- The place is a tree, and the directory that it is in is outside. -/
structure IsTreeIn (tree : FileTree) (parent : Nat) (name : Text) : Prop where
  isTree : ∀ directory, tree.entries parent name = some (.directory directory) →
    tree.IsTree directory
  outside : tree.Outside parent name parent

theorem IsTree.child {directory : Nat} (isTree : IsTree tree directory) (name : Text) :
    IsTreeIn tree directory name := by
  constructor
  · intro inner there names other inode first second
    rw [← nodeAt_cons_directory there] at first second
    exact List.cons_injective (isTree _ _ inode first second)
  · intro names same
    exact List.cons_ne_nil _ _ (isTree _ [] directory same rfl)

theorem IsTree.mono {directory : Nat} (isTree : IsTree larger directory)
    (extends_ : Extends smaller larger) : IsTree smaller directory :=
  fun names other inode first second =>
    isTree names other inode (extends_.nodeAt first) (extends_.nodeAt second)

theorem IsTree.nodeAt_sibling {other : FileTree} {directory : Nat} {child sibling : Text}
    (isTree : IsTree tree directory) (different : sibling ≠ child)
    (frame : ∀ inode entry, (inode, entry) ≠ (directory, child) →
      tree.Outside directory child inode → other.entries inode entry = tree.entries inode entry)
    (names : List Text) :
    other.nodeAt directory (sibling :: names) = tree.nodeAt directory (sibling :: names) := by
  apply nodeAt_congr
  intro front later back inode split found
  apply frame
  · intro same
    cases same
    rw [isTree _ [] directory found rfl, List.nil_append, List.cons_eq_cons] at split
    exact different split.1
  · intro names inside
    rw [isTree _ _ inode found inside, List.cons_append, List.cons_eq_cons] at split
    exact different split.1

end FileTree

/-! ## Listed trees -/

structure ListedTree extends FileTree where
  names : Nat → List Text
  nodup_names : ∀ directory, (names directory).Nodup
  mem_names : ∀ directory name, name ∈ names directory ↔ entries directory name ≠ none
  isName : ∀ directory, ∀ name ∈ names directory, FileTree.IsName name ∧ '/' ∉ name

namespace ListedTree

open FileTree

def ofContents (contents : List (List (Text × Entry))) (parent : Nat → Nat)
    (nodup : ∀ entries ∈ contents, (entries.map (·.1)).Nodup)
    (isName : ∀ entries ∈ contents, ∀ entry ∈ entries, IsName entry.1 ∧ '/' ∉ entry.1) :
    ListedTree where
  entries directory name := ((contents[directory]?).getD []).lookup name
  parent := parent
  root := 0
  current := 0
  next := contents.length
  names directory := ((contents[directory]?).getD []).map (·.1)
  nodup_names := by
    intro directory
    cases found : contents[directory]? with
    | none => exact List.nodup_nil
    | some entries => exact nodup entries (List.mem_of_getElem? found)
  mem_names := by
    intro directory name
    rw [← Option.isSome_iff_ne_none, List.lookup_isSome_iff]
    simp
  isName := by
    intro directory name member
    cases found : contents[directory]? with
    | none =>
        rw [found] at member
        cases member
    | some entries =>
        rw [found] at member
        rcases List.mem_map.mp member with ⟨entry, isEntry, rfl⟩
        exact isName entries (List.mem_of_getElem? found) entry isEntry

theorem mem_of_entries_ofContents {contents : List (List (Text × Entry))} {parent : Nat → Nat}
    {nodup : ∀ entries ∈ contents, (entries.map (·.1)).Nodup}
    {isName : ∀ entries ∈ contents, ∀ entry ∈ entries, IsName entry.1 ∧ '/' ∉ entry.1}
    {directory : Nat} {name : Text} {entry : Entry}
    (there : (ofContents contents parent nodup isName).entries directory name = some entry) :
    (name, entry) ∈ (contents[directory]?).getD [] := by
  rcases List.lookup_eq_some_iff.mp there with ⟨before, behind, split, -⟩
  rw [split]
  simp

def remove (tree : ListedTree) (directory : Nat) (name : Text) : ListedTree where
  toFileTree := tree.setEntry directory name none
  names := Function.update tree.names directory ((tree.names directory).filter (· ≠ name))
  nodup_names := by
    intro other
    by_cases same : other = directory
    · rw [same, Function.update_self]
      exact (tree.nodup_names directory).filter _
    · rw [Function.update_of_ne same]
      exact tree.nodup_names other
  mem_names := by
    intro other found
    by_cases same : other = directory
    · subst same
      by_cases sameName : found = name
      · simp [setEntry, sameName]
      · simp [setEntry, sameName, tree.mem_names]
    · simp [setEntry, same, tree.mem_names]
  isName := by
    intro other found member
    by_cases same : other = directory
    · subst same
      rw [Function.update_self] at member
      exact tree.isName other found (List.mem_of_mem_filter member)
    · rw [Function.update_of_ne same] at member
      exact tree.isName other found member

theorem remove_entries_self (tree : ListedTree) (directory : Nat) (name : Text) :
    (tree.remove directory name).entries directory name = none := setEntry_entries_self _ _ _

theorem remove_entries_of_ne {tree : ListedTree} {directory other : Nat} {name found : Text}
    (different : (other, found) ≠ (directory, name)) :
    (tree.remove directory name).entries other found = tree.entries other found := by
  by_cases same : other = directory
  · subst same
    have notName : found ≠ name := fun sameName => different (by rw [sameName])
    simp [remove, setEntry, notName]
  · simp [remove, setEntry, same]

theorem extends_remove (tree : ListedTree) (directory : Nat) (name : Text) :
    Extends (tree.remove directory name).toFileTree tree.toFileTree :=
  extends_setEntry_none directory name

def unlink (tree : ListedTree) (path : Text) : Option ListedTree :=
  match tree.place path with
  | none => none
  | some (directory, name) =>
      if IsName name then
        match tree.entries directory name with
        | some (.file _) | some (.link _) => some (tree.remove directory name)
        | some (.directory _) | none => none
      else none

theorem unlink_eq_some {tree after : ListedTree} {path : Text}
    (unlinked : tree.unlink path = some after) :
    ∃ directory name, tree.place path = some (directory, name) ∧
      after = tree.remove directory name := by
  rw [unlink] at unlinked
  split at unlinked
  · cases unlinked
  next directory name placed =>
  refine ⟨directory, name, placed, ?_⟩
  split at unlinked
  · split at unlinked
    · exact (Option.some.inj unlinked).symm
    · exact (Option.some.inj unlinked).symm
    · cases unlinked
    · cases unlinked
  · cases unlinked

end ListedTree

/-! ## System calls -/

inductive Errno
  | enoent
  | eexist
  | enotempty
  | erofs
  | ebusy
  | other
  deriving DecidableEq

inductive SystemCall
  | stat
  | lstat
  | unlink
  | opendir
  | rmdir
  deriving DecidableEq

structure Kernel where
  fails : SystemCall → ListedTree → Text → Bool
  busy : Nat → Bool
  readOnly : Nat → Bool
  strError : Errno → String

namespace Kernel

open FileTree

variable (kernel : Kernel) (tree : ListedTree) (path : Text)

def Holds (entry : Entry) : Prop :=
  ∃ directory, entry = .directory directory ∧
    (kernel.busy directory = true ∨ kernel.readOnly directory = true)

def stat : Except Errno Entry :=
  if kernel.fails .stat tree path then .error .other
  else
    match tree.stat path with
    | none => .error .enoent
    | some entry => .ok entry

def lstat : Except Errno Entry :=
  if kernel.fails .lstat tree path then .error .other
  else
    match tree.lstat path with
    | none => .error .enoent
    | some entry => .ok entry

def unlink : Except Errno ListedTree :=
  if kernel.fails .unlink tree path then .error .other
  else
    match tree.unlink path with
    | none => .error .other
    | some after => .ok after

def opendir : Except Errno (List Text) :=
  if kernel.fails .opendir tree path then .error .other
  else
    match tree.stat path with
    | some (.directory directory) => .ok (['.'] :: ['.', '.'] :: tree.names directory)
    | _ => .error .other

def rmdir : Except Errno ListedTree :=
  let stripped := path.rdropWhile (· = '/')
  if kernel.fails .rmdir tree path then .error .other
  else if stripped = [] ∧ path ≠ [] then .error .ebusy
  else
    match tree.place stripped with
    | none => .error .enoent
    | some (parent, name) =>
        if name = ['.', '.'] then .error .enotempty
        else if IsDot name then .error .other
        else
          match tree.entries parent name with
          | none => .error .enoent
          | some (.directory directory) =>
              if kernel.readOnly directory then .error .erofs
              else if kernel.busy directory then .error .ebusy
              else if (tree.names directory).isEmpty then .ok (tree.remove parent name)
              else .error .enotempty
          | some _ => .error .other

variable {kernel tree path}

theorem lstat_eq_ok {entry : Entry} (found : kernel.lstat tree path = .ok entry) :
    tree.lstat path = some entry := by
  rw [lstat] at found
  split at found
  · cases found
  split at found
  · cases found
  · next isEntry => rw [isEntry, Except.ok.inj found]

theorem lstat_enoent (missing : kernel.lstat tree path = .error .enoent) :
    tree.lstat path = none := by
  rw [lstat] at missing
  split at missing
  · cases missing
  split at missing
  · assumption
  · cases missing

theorem opendir_of_place {name : Text} {parent directory : Nat} {listed : List Text}
    (placed : tree.place path = some (parent, name)) (named : IsName name)
    (there : tree.entries parent name = some (.directory directory))
    (opened : kernel.opendir tree path = .ok listed) :
    listed = ['.'] :: ['.', '.'] :: tree.names directory := by
  rw [opendir, stat_of_place placed named there] at opened
  split at opened
  · cases opened
  · exact (Except.ok.inj opened).symm

theorem unlink_eq_ok {after : ListedTree} (unlinked : kernel.unlink tree path = .ok after) :
    ∃ directory name, tree.place path = some (directory, name) ∧
      after = tree.remove directory name := by
  rw [unlink] at unlinked
  split at unlinked
  · cases unlinked
  split at unlinked
  · cases unlinked
  · next found =>
    cases unlinked
    exact ListedTree.unlink_eq_some found

theorem rmdir_eq_ok {after : ListedTree} (removed : kernel.rmdir tree path = .ok after) :
    ∃ directory name, after = tree.remove directory name := by
  simp only [rmdir] at removed
  repeat' split at removed
  all_goals cases removed
  exact ⟨_, _, rfl⟩

theorem rmdir_cases (plain : path.rdropWhile (· = '/') = path)
    (named : ∀ parent name, tree.place path = some (parent, name) → IsName name) :
    kernel.rmdir tree path = .error .enoent ∨ kernel.rmdir tree path = .error .other ∨
      ∃ parent name directory, tree.place path = some (parent, name) ∧
        tree.entries parent name = some (.directory directory) ∧
        ((kernel.rmdir tree path = .ok (tree.remove parent name) ∧ tree.names directory = [] ∧
            ¬ kernel.Holds (.directory directory)) ∨
          ∃ errno, kernel.rmdir tree path = .error errno ∧
            (kernel.Holds (.directory directory) ∨ tree.names directory ≠ [])) := by
  rw [rmdir, plain]
  split
  · exact .inr (.inl rfl)
  split
  · next slashes => exact absurd slashes.1 slashes.2
  split
  · exact .inl rfl
  next parent name placed =>
  have isName := named parent name placed
  rw [if_neg isName.2, if_neg isName.1]
  split
  · exact .inl rfl
  · next directory there =>
    refine .inr (.inr ⟨parent, name, directory, placed, there, ?_⟩)
    by_cases readOnly : kernel.readOnly directory = true
    · rw [if_pos readOnly]
      exact .inr ⟨.erofs, rfl, .inl ⟨directory, rfl, .inr readOnly⟩⟩
    rw [if_neg readOnly]
    by_cases busy : kernel.busy directory = true
    · rw [if_pos busy]
      exact .inr ⟨.ebusy, rfl, .inl ⟨directory, rfl, .inl busy⟩⟩
    rw [if_neg busy]
    by_cases empty : (tree.names directory).isEmpty = true
    · rw [if_pos empty]
      refine .inl ⟨rfl, List.isEmpty_iff.mp empty, ?_⟩
      rintro ⟨held, same, isBusy | isReadOnly⟩
      · exact busy (Entry.directory.inj same ▸ isBusy)
      · exact readOnly (Entry.directory.inj same ▸ isReadOnly)
    · rw [if_neg empty]
      exact .inr ⟨.enotempty, rfl, .inr fun isEmpty => empty (List.isEmpty_iff.mpr isEmpty)⟩
  · exact .inr (.inl rfl)

end Kernel

end Cuttlefish
