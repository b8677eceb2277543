import Cuttlefish.Foundation.Decimal
import Cuttlefish.Foundation.Substrings

/-! # Paths in lexical normal form

`Clean` and `Join` of Go's `path/filepath` on Unix. A cleaned path starts at the root
or goes up some directories, and then goes down through named ones. -/

namespace Cuttlefish

inductive PathStart
  | root
  | up (count : Nat)
  deriving DecidableEq

namespace PathStart

def raise : PathStart → Nat → PathStart
  | .root, _ => .root
  | .up count, more => .up (count + more)

def isAbove : PathStart → PathStart → Bool
  | .up more, .up count => count < more
  | _, _ => false

end PathStart

structure CleanPath where
  start : PathStart
  parts : List Text
  deriving DecidableEq

namespace CleanPath

def here : CleanPath := ⟨.up 0, []⟩

/-- The path followed by `..`; the root has no parent. -/
def parent (path : CleanPath) : CleanPath :=
  if path.parts = [] then
    match path.start with
    | .root => path
    | .up count => ⟨.up (count + 1), []⟩
  else { path with parts := path.parts.dropLast }

def enter (path : CleanPath) (part : Text) : CleanPath :=
  if part = [] ∨ part = ['.'] then path
  else if part = ['.', '.'] then path.parent
  else { path with parts := path.parts ++ [part] }

def clean (text : Text) : CleanPath :=
  (text.splitOn '/').foldl enter ⟨if text.head? = some '/' then .root else .up 0, []⟩

def join (first second : Text) : CleanPath := clean (first ++ '/' :: second)

/-! ## Following a relative path -/

def ascend (path : CleanPath) : Nat → CleanPath
  | 0 => path
  | count + 1 => (path.ascend count).parent

def descend (path : CleanPath) (parts : List Text) : CleanPath :=
  { path with parts := path.parts ++ parts }

/-- A name that is joined to a directory: how many directories it goes up, and where it
then goes down. A slash at its start makes no difference there. -/
structure Relative where
  ups : Nat
  downs : List Text
  deriving DecidableEq

namespace Relative

def enter (relative : Relative) (part : Text) : Relative :=
  if part = [] ∨ part = ['.'] then relative
  else if part = ['.', '.'] then
    if relative.downs = [] then { relative with ups := relative.ups + 1 }
    else { relative with downs := relative.downs.dropLast }
  else { relative with downs := relative.downs ++ [part] }

def clean (name : Text) : Relative := (name.splitOn '/').foldl enter ⟨0, []⟩

end Relative

def follow (path : CleanPath) (relative : Relative) : CleanPath :=
  (path.ascend relative.ups).descend relative.downs

theorem follow_enter (path : CleanPath) (relative : Relative) (part : Text) :
    path.follow (relative.enter part) = (path.follow relative).enter part := by
  rw [Relative.enter, enter]
  split
  · rfl
  · split
    · by_cases none : relative.downs = []
      · simp [none, follow, ascend, descend]
      · have some : (path.follow relative).parts ≠ [] := by simp [follow, descend, none]
        rw [if_neg none, parent, if_neg some]
        simp [follow, descend, List.dropLast_append_of_ne_nil none]
    · simp [follow, descend]

theorem foldl_enter (path : CleanPath) (relative : Relative) (parts : List Text) :
    parts.foldl enter (path.follow relative) =
      path.follow (parts.foldl Relative.enter relative) := by
  induction parts generalizing relative with
  | nil => rfl
  | cons part rest induction =>
      rw [List.foldl_cons, List.foldl_cons, ← follow_enter, induction]

theorem join_eq_follow {directory : Text} (nonempty : directory ≠ []) (name : Text) :
    join directory name = (clean directory).follow (Relative.clean name) := by
  have head : (directory ++ '/' :: name).head? = directory.head? := by
    cases directory with
    | nil => exact absurd rfl nonempty
    | cons char rest => rfl
  have from_ : ∀ path : CleanPath, path = path.follow ⟨0, []⟩ := by
    intro path
    simp [follow, ascend, descend]
  rw [join, clean, clean, head, List.splitOn_append_cons_self, List.foldl_append, Relative.clean,
    ← foldl_enter, ← from_]

/-! ## Going up -/

theorem parts_parent (path : CleanPath) : path.parent.parts = path.parts.dropLast := by
  rw [parent]
  split
  next none =>
    rw [none]
    cases path.start with
    | root => exact none
    | up count => rfl
  next => rfl

theorem start_parent (path : CleanPath) :
    path.parent.start = path.start.raise (if path.parts = [] then 1 else 0) := by
  rw [parent]
  split
  next none =>
    cases isStart : path.start with
    | root => exact isStart
    | up count => rfl
  next =>
    cases path.start with
    | root => rfl
    | up count => rfl

theorem parts_ascend (path : CleanPath) (count : Nat) :
    (path.ascend count).parts = path.parts.take (path.parts.length - count) := by
  induction count with
  | zero => simp [ascend]
  | succ count induction =>
      rw [ascend, parts_parent, induction, List.dropLast_eq_take, List.take_take,
        List.length_take]
      congr 1
      omega

theorem start_ascend (path : CleanPath) (count : Nat) :
    (path.ascend count).start = path.start.raise (count - path.parts.length) := by
  induction count with
  | zero =>
      rw [ascend, Nat.zero_sub]
      cases path.start with
      | root => rfl
      | up above => rfl
  | succ count induction =>
      have empty : (path.ascend count).parts = [] ↔ path.parts.length ≤ count := by
        rw [parts_ascend, ← List.length_eq_zero_iff, List.length_take]
        omega
      rw [ascend, start_parent, induction]
      cases path.start with
      | root => rfl
      | up above =>
          simp only [PathStart.raise, empty, PathStart.up.injEq]
          split <;> omega

/-! ## Names -/

/-- What is between the slashes of a path that is cleaned. -/
structure IsName (part : Text) : Prop where
  nonempty : part ≠ []
  notHere : part ≠ ['.']
  notParent : part ≠ ['.', '.']
  noSlash : '/' ∉ part

theorem enter_name (path : CleanPath) {part : Text} (name : IsName part) :
    path.enter part = path.descend [part] := by
  rw [enter, if_neg (not_or.mpr ⟨name.nonempty, name.notHere⟩), if_neg name.notParent]
  rfl

theorem foldl_enter_names (path : CleanPath) {parts : List Text}
    (names : ∀ part ∈ parts, IsName part) : parts.foldl enter path = path.descend parts := by
  induction parts generalizing path with
  | nil => simp [descend]
  | cons part rest induction =>
      rw [List.foldl_cons, enter_name path (names part List.mem_cons_self),
        induction _ fun other member => names other (List.mem_cons_of_mem part member)]
      simp [descend]

theorem names_enter {path : CleanPath} (names : ∀ part ∈ path.parts, IsName part) {part : Text}
    (noSlash : '/' ∉ part) : ∀ other ∈ (path.enter part).parts, IsName other := by
  intro other member
  rw [enter] at member
  split at member
  · exact names other member
  · rename_i notDot
    split at member
    · rw [parts_parent] at member
      exact names other (List.dropLast_subset _ member)
    · rename_i notParent
      rw [not_or] at notDot
      rcases List.mem_append.mp member with before | isPart
      · exact names other before
      · rw [List.mem_singleton.mp isPart]
        exact ⟨notDot.1, notDot.2, notParent, noSlash⟩

theorem names_foldl_enter {path : CleanPath} (names : ∀ part ∈ path.parts, IsName part)
    {parts : List Text} (noSlash : ∀ part ∈ parts, '/' ∉ part) :
    ∀ other ∈ (parts.foldl enter path).parts, IsName other := by
  induction parts generalizing path with
  | nil => exact names
  | cons part rest induction =>
      apply induction
      · exact names_enter names (noSlash part List.mem_cons_self)
      · exact fun other member => noSlash other (List.mem_cons_of_mem part member)

theorem names_clean (text : Text) : ∀ part ∈ (clean text).parts, IsName part := by
  apply names_foldl_enter
  · intro part member
    cases member
  · intro part member
    exact Substrings.notMem_of_mem_splitOn member

theorem foldl_enter_intercalate (path : CleanPath) {names : List Text}
    (areNames : ∀ name ∈ names, IsName name) :
    ((['/'].intercalate names).splitOn '/').foldl enter path = path.descend names := by
  by_cases none : names = []
  · rw [none]
    simp [enter, descend]
  · rw [List.splitOn_intercalate '/' (fun name member => (areNames name member).noSlash) none]
    exact foldl_enter_names path areNames

/-! ## Paths from the root -/

theorem parent_root (names : List Text) :
    parent ⟨.root, names⟩ = ⟨.root, names.dropLast⟩ := by
  rw [parent]
  split
  · rename_i none
    dsimp only at none
    rw [none, List.dropLast_nil]
  · rfl

theorem start_enter {path : CleanPath} (isRoot : path.start = .root) (part : Text) :
    (path.enter part).start = .root := by
  rw [enter]
  split
  · exact isRoot
  · split
    · rw [start_parent, isRoot, PathStart.raise]
    · exact isRoot

theorem start_foldl_enter {path : CleanPath} (isRoot : path.start = .root) (parts : List Text) :
    (parts.foldl enter path).start = .root := by
  induction parts generalizing path with
  | nil => exact isRoot
  | cons part rest induction => exact induction (start_enter isRoot part)

theorem clean_root (text : Text) :
    clean ('/' :: text) = ⟨.root, (clean ('/' :: text)).parts⟩ := by
  have isRoot : (clean ('/' :: text)).start = .root := start_foldl_enter rfl _
  rw [← isRoot]

/-! ## Directories within directories -/

def Under (directory path : CleanPath) : Prop :=
  path.start = directory.start ∧ directory.parts <+: path.parts

def Encloses (path directory : CleanPath) : Prop :=
  path.start = directory.start ∧ path.parts <+: directory.parts ∨
    path.start.isAbove directory.start = true ∧ path.parts = []

instance (directory path : CleanPath) : Decidable (Under directory path) :=
  inferInstanceAs (Decidable (_ ∧ _))

instance (path directory : CleanPath) : Decidable (Encloses path directory) :=
  inferInstanceAs (Decidable (_ ∧ _ ∨ _))

/-- The name does not leave the directory, or it comes back down the way it went up. -/
def Relative.StaysIn (relative : Relative) (directory : CleanPath) : Prop :=
  (directory.start = .root ∨ relative.ups ≤ directory.parts.length) ∧
    directory.parts.drop (directory.parts.length - relative.ups) <+: relative.downs

/-- The name leads to one of the directories on the way down to the directory. -/
def Relative.LeadsAbove (relative : Relative) (directory : CleanPath) : Prop :=
  (directory.start = .root ∨ relative.ups ≤ directory.parts.length) ∧
      relative.downs <+: directory.parts.drop (directory.parts.length - relative.ups) ∨
    directory.start ≠ .root ∧ directory.parts.length < relative.ups ∧ relative.downs = []

instance (relative : Relative) (directory : CleanPath) :
    Decidable (relative.StaysIn directory) :=
  inferInstanceAs (Decidable (_ ∧ _))

instance (relative : Relative) (directory : CleanPath) :
    Decidable (relative.LeadsAbove directory) :=
  inferInstanceAs (Decidable (_ ∧ _ ∨ _))

theorem start_eq_raise_iff (start : PathStart) (count : Nat) :
    start.raise count = start ↔ start = .root ∨ count = 0 := by
  cases start with
  | root => simp [PathStart.raise]
  | up above => simp [PathStart.raise]

theorem parts_follow (directory : CleanPath) (relative : Relative) :
    (directory.follow relative).parts =
      directory.parts.take (directory.parts.length - relative.ups) ++ relative.downs := by
  rw [follow, descend, parts_ascend]

theorem start_follow (directory : CleanPath) (relative : Relative) :
    (directory.follow relative).start =
      directory.start.raise (relative.ups - directory.parts.length) :=
  start_ascend directory relative.ups

theorem prefix_take_append_iff (list rest : List Text) (count : Nat) :
    list <+: list.take count ++ rest ↔ list.drop count <+: rest := by
  have both : list.take count ++ list.drop count <+: list.take count ++ rest ↔
      list.drop count <+: rest := List.prefix_append_right_inj _
  rwa [List.take_append_drop] at both

theorem take_append_prefix_iff (list rest : List Text) (count : Nat) :
    list.take count ++ rest <+: list ↔ rest <+: list.drop count := by
  have both : list.take count ++ rest <+: list.take count ++ list.drop count ↔
      rest <+: list.drop count := List.prefix_append_right_inj _
  rwa [List.take_append_drop] at both

theorem under_follow_iff (directory : CleanPath) (relative : Relative) :
    Under directory (directory.follow relative) ↔ relative.StaysIn directory := by
  rw [Under, Relative.StaysIn]
  rw [start_follow, start_eq_raise_iff, Nat.sub_eq_zero_iff_le, parts_follow,
    prefix_take_append_iff]

theorem encloses_follow_iff (directory : CleanPath) (relative : Relative) :
    Encloses (directory.follow relative) directory ↔ relative.LeadsAbove directory := by
  have above : (directory.start.raise (relative.ups - directory.parts.length)).isAbove
      directory.start = true ↔
        directory.start ≠ .root ∧ directory.parts.length < relative.ups := by
    cases directory.start with
    | root => simp [PathStart.raise, PathStart.isAbove]
    | up count =>
        rw [← Nat.sub_pos_iff_lt]
        simp [PathStart.raise, PathStart.isAbove]
  have nothing : directory.parts.length < relative.ups →
      (directory.parts.take (directory.parts.length - relative.ups) ++ relative.downs = [] ↔
        relative.downs = []) := by
    intro less
    rw [Nat.sub_eq_zero_of_le (Nat.le_of_lt less), List.take_zero, List.nil_append]
  rw [Encloses, Relative.LeadsAbove]
  rw [start_follow, start_eq_raise_iff, Nat.sub_eq_zero_iff_le, parts_follow,
    take_append_prefix_iff, above, and_assoc]
  refine or_congr_right (and_congr_right fun _ => and_congr_right nothing)

end CleanPath

end Cuttlefish
