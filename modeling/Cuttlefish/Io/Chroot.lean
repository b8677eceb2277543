import Cuttlefish.Foundation.LexicalPath
import Cuttlefish.Result

/-! # Paths below a prefix

`ChrootReadWriteFilesystem` of `io/chroot.cc` opens a path below its prefix only, which
`ChrootToRealPath` sees to. -/

namespace Cuttlefish.Io

structure ChrootReadWriteFilesystem where
  pathPrefix : Text

namespace ChrootReadWriteFilesystem

def restrain (before : List Text) : List Text → List Text
  | [] => before.reverse
  | member :: members =>
      if member = ['.'] then restrain before members
      -- the member before it is erased too, if there is one
      else if member = ['.', '.'] then restrain before.tail members
      else restrain (member :: before) members

def splitMembers (path : Text) : List Text := (path.splitOn '/').filter (· ≠ [])

def chrootToRealPath (chroot : ChrootReadWriteFilesystem) (path : Text) : Result Text := do
  cfExpect (path.head? = some '/') ("'" ++ String.ofList path ++ "' is not absolute")
  return chroot.pathPrefix ++ '/' :: ['/'].intercalate (restrain [] (splitMembers path))

/-! ## The loop walks through the path from the root -/

open CleanPath

theorem restrain_eq_foldl {before members : List Text} (nonempty : ∀ member ∈ members, member ≠ []) :
    restrain before members = (members.foldl enter ⟨.root, before.reverse⟩).parts := by
  induction members generalizing before with
  | nil => rfl
  | cons member members induction =>
      have rest : ∀ other ∈ members, other ≠ [] := fun other isOther =>
        nonempty other (List.mem_cons_of_mem member isOther)
      have notEmpty := nonempty member List.mem_cons_self
      rw [restrain, List.foldl_cons, enter]
      by_cases isDot : member = ['.']
      · rw [if_pos isDot, if_pos (.inr isDot)]
        exact induction rest
      · rw [if_neg isDot, if_neg (not_or.mpr ⟨notEmpty, isDot⟩)]
        by_cases isDotDot : member = ['.', '.']
        · rw [if_pos isDotDot, if_pos isDotDot, induction rest, parent_root,
            List.dropLast_reverse]
        · rw [if_neg isDotDot, if_neg isDotDot, induction rest, List.reverse_cons]

theorem foldl_enter_filter (path : CleanPath) (parts : List Text) :
    (parts.filter (· ≠ [])).foldl enter path = parts.foldl enter path := by
  induction parts generalizing path with
  | nil => rfl
  | cons part parts induction =>
      by_cases isEmpty : part = []
      · rw [List.filter_cons_of_neg (by simp [isEmpty]), List.foldl_cons, induction, isEmpty]
        rfl
      · rw [List.filter_cons_of_pos (by simp [isEmpty]), List.foldl_cons, List.foldl_cons,
          induction]

theorem chrootToRealPath_eq (chroot : ChrootReadWriteFilesystem) (path : Text) :
    chroot.chrootToRealPath ('/' :: path) =
      .ok (chroot.pathPrefix ++ '/' :: ['/'].intercalate (clean ('/' :: path)).parts) := by
  have nonempty : ∀ member ∈ splitMembers ('/' :: path), member ≠ [] := by
    intro member isMember
    simpa using (List.mem_filter.mp isMember).2
  have restrained : restrain [] (splitMembers ('/' :: path)) = (clean ('/' :: path)).parts := by
    rw [restrain_eq_foldl nonempty, splitMembers, foldl_enter_filter]
    rfl
  rw [← restrained]
  rfl

theorem clean_intercalate {names : List Text} (areNames : ∀ name ∈ names, IsName name) :
    clean ('/' :: ['/'].intercalate names) = ⟨.root, names⟩ := by
  have split : ('/' :: ['/'].intercalate names).splitOn '/' =
      [] :: (['/'].intercalate names).splitOn '/' := by
    have parts := List.splitOn_append_cons_self ([] : Text) (['/'].intercalate names) (a := '/')
    simpa using parts
  change List.foldl enter ⟨.root, []⟩ (List.splitOn '/' ('/' :: ['/'].intercalate names)) = _
  rw [split, List.foldl_cons]
  change List.foldl enter ⟨.root, []⟩ (List.splitOn '/' (['/'].intercalate names)) = _
  rw [foldl_enter_intercalate _ areNames]
  rfl

theorem under_intercalate {pathPrefix : Text} (nonempty : pathPrefix ≠ []) {names : List Text}
    (areNames : ∀ name ∈ names, IsName name) :
    Under (clean pathPrefix) (clean (pathPrefix ++ '/' :: ['/'].intercalate names)) := by
  change Under (clean pathPrefix) (join pathPrefix (['/'].intercalate names))
  rw [join_eq_follow nonempty, Relative.clean, ← foldl_enter,
    foldl_enter_intercalate _ areNames]
  have start : (clean pathPrefix).follow ⟨0, []⟩ = clean pathPrefix := by
    simp [follow, ascend, descend]
  rw [start]
  exact ⟨rfl, List.prefix_append _ _⟩

theorem chrootToRealPath_relative (chroot : ChrootReadWriteFilesystem) {path : Text}
    (relative : path.head? ≠ some '/') :
    chroot.chrootToRealPath path =
      .error (.err ("'" ++ String.ofList path ++ "' is not absolute")) := by
  rw [chrootToRealPath, decide_eq_false relative]
  rfl

/-- An absolute path is mapped to the prefix followed by its normal form, which has only
names and so does not leave the prefix. A normal form is mapped to itself. -/
theorem chrootToRealPath_contained (chroot : ChrootReadWriteFilesystem) (path : Text) :
    (∃ names : List Text, clean ('/' :: path) = ⟨.root, names⟩ ∧
      (∀ name ∈ names, IsName name) ∧
      chroot.chrootToRealPath ('/' :: path) =
        .ok (chroot.pathPrefix ++ '/' :: ['/'].intercalate names) ∧
      chroot.chrootToRealPath ('/' :: ['/'].intercalate names) =
        chroot.chrootToRealPath ('/' :: path) ∧
      (chroot.pathPrefix ≠ [] →
        Under (clean chroot.pathPrefix)
          (clean (chroot.pathPrefix ++ '/' :: ['/'].intercalate names)))) ∧
    (path.head? ≠ some '/' →
      chroot.chrootToRealPath path =
        .error (.err ("'" ++ String.ofList path ++ "' is not absolute"))) := by
  have areNames := names_clean ('/' :: path)
  refine ⟨⟨(clean ('/' :: path)).parts, clean_root path, areNames,
    chrootToRealPath_eq chroot path, ?_, ?_⟩, chroot.chrootToRealPath_relative⟩
  · rw [chrootToRealPath_eq, chrootToRealPath_eq, clean_intercalate areNames]
  · intro nonempty
    exact under_intercalate nonempty areNames

example : chrootToRealPath ⟨"/my_dir".toList⟩ "/../a/./b/../../../c".toList =
    .ok "/my_dir/c".toList := by decide +kernel

/-- A path that does not begin with a slash is refused. -/
theorem relative_path_refused :
    ¬ ∀ (chroot : ChrootReadWriteFilesystem) (path : Text),
      ∃ real, chroot.chrootToRealPath path = .ok real := by
  intro always
  rcases always ⟨"/my_dir".toList⟩ "a".toList with ⟨real, isReal⟩
  have refused : chrootToRealPath ⟨"/my_dir".toList⟩ "a".toList =
      .error (.err "'a' is not absolute") := by decide +kernel
  rw [refused] at isReal
  cases isReal

end ChrootReadWriteFilesystem

end Cuttlefish.Io
