import Cuttlefish.Foundation.Action
import Cuttlefish.Foundation.FileTree
import Cuttlefish.Utils.FlagParser

/-! # Directories that must exist

`FileExists`, `DirectoryExists` and `EnsureDirectoryExists` of `common/libs/utils`, and `Dirname` and
`Basename` of `libbase`. -/

namespace Cuttlefish

open FlagParser (quoted)

def dirname (path : Text) : Text :=
  if path = [] then ['.']
  else
    let stripped := path.rdropWhile (· = '/')
    if stripped = [] then ['/']
    else
      let front := stripped.rdropWhile (· ≠ '/')
      if front = [] then ['.']
      else
        let parent := front.rdropWhile (· = '/')
        if parent = [] then ['/'] else parent

def basename (path : Text) : Text :=
  if path = [] then ['.']
  else
    let stripped := path.rdropWhile (· = '/')
    if stripped = [] then ['/'] else stripped.rtakeWhile (· ≠ '/')

theorem length_rdropWhile_lt {drops : Char → Bool} {text : Text} (nonempty : text ≠ [])
    (last : drops (text.getLast nonempty)) : (text.rdropWhile drops).length < text.length := by
  have inside : text.rdropWhile drops <+: text := List.rdropWhile_prefix _ _
  apply lt_of_le_of_ne inside.length_le
  intro same
  exact List.rdropWhile_eq_self_iff.mp (inside.eq_of_length same) nonempty last

theorem length_dirname_lt {path : Text} (named : 1 < (dirname path).length) :
    (dirname path).length < path.length := by
  rw [dirname] at named ⊢
  split at named
  · simp at named
  · rename_i nonempty
    rw [if_neg nonempty]
    dsimp only at named ⊢
    split at named
    · simp at named
    · rename_i stripped
      rw [if_neg stripped]
      split at named
      · simp at named
      · rename_i present
        rw [if_neg present]
        split at named
        · simp at named
        · rename_i absent
          rw [if_neg absent]
          -- the front ends in the slash in front of the last name
          have slash := List.rdropWhile_last_not _ _ present
          calc _ < _ := length_rdropWhile_lt present (by simpa using slash)
            _ ≤ (path.rdropWhile (· = '/')).length := (List.rdropWhile_prefix _ _).length_le
            _ ≤ path.length := (List.rdropWhile_prefix _ _).length_le

namespace FileTree

variable (tree : FileTree)

def fileExists (path : Text) (followSymlinks : Bool) : Bool :=
  ((if followSymlinks then tree.stat else tree.lstat) path).isSome

def directoryExists (path : Text) : Bool :=
  match tree.stat path with
  | some (.directory _) => true
  | _ => false

def inSandbox : Bool := tree.fileExists "/manager.sock".toList true

end FileTree

/-- The part of `EnsureDirectoryExists` behind the parent's: a directory is made unless there is
something of that name, and gets its mode. -/
def makeDirectory (directoryPath : Text) : Action FileTree Unit := fun tree =>
  let made :=
    if tree.fileExists directoryPath false then some tree else tree.mkdir directoryPath
  match made with
  | none => (.error (.err ("Failed to create directory: " ++ quoted directoryPath)), tree)
  | some tree =>
      (cfExpect (tree.inSandbox || tree.fileExists directoryPath true)
        ("Failed to set permission on " ++ String.ofList directoryPath), tree)

def removeBrokenLink (directoryPath : Text) : Action FileTree Unit := fun tree =>
  if tree.fileExists directoryPath false ∧ ¬ tree.fileExists directoryPath true then
    match tree.unlink directoryPath with
    | none =>
        (.error (.err ("Can't remove broken link: " ++ String.ofList directoryPath)), tree)
    | some tree => (.ok (), tree)
  else (.ok (), tree)

def ensureDirectoryExists (directoryPath : Text) : Action FileTree Unit := do
  let tree ← Action.get
  if tree.directoryExists directoryPath then pure ()
  else
    removeBrokenLink directoryPath
    if _shorter : 1 < (dirname directoryPath).length then
      ensureDirectoryExists (dirname directoryPath)
      makeDirectory directoryPath
    else makeDirectory directoryPath
termination_by directoryPath.length
decreasing_by exact length_dirname_lt _shorter

theorem ensureDirectoryExists_of_directoryExists {tree : FileTree} {directoryPath : Text}
    (there : tree.directoryExists directoryPath = true) :
    ensureDirectoryExists directoryPath tree = (.ok (), tree) := by
  rw [ensureDirectoryExists]
  change (if tree.directoryExists directoryPath then pure () else _ : Action FileTree Unit) tree = _
  rw [if_pos there]
  rfl

end Cuttlefish
