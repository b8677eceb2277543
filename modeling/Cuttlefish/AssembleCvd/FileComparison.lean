import Cuttlefish.Foundation.Bytes
import Mathlib.Logic.Function.Basic

/-! # Moving a file if it has changed

`FileEquals` and `MoveIfChanged` of `vendor_dlkm_utils.cc`. -/

namespace Cuttlefish.AssembleCvd.FileComparison

open Bytes

structure StoredFile where
  content : Bytes
  modified : Nat

abbrev Files := String → Option StoredFile

/-- `FileSize`, which is zero when `stat(2)` fails. -/
def fileSize (files : Files) (path : String) : Nat :=
  ((files path).map fun file => file.content.length).getD 0

def bufferSize : Nat := 1024 * 16

/-- The loop with the positions of both descriptors and the second buffer. It does not change
`bytes_remain`. -/
def compareFrom (first second : Bytes) (bytesRemain : Nat) :
    (fuel firstPosition secondPosition : Nat) → (buf : Bytes) → Option Bool
  | 0, _, _, _ => none
  | fuel + 1, firstPosition, secondPosition, buf =>
      let bytesToRead := min bytesRemain bufferSize
      let fromFirst := first.readAt firstPosition bytesToRead
      if fromFirst.length ≠ bytesToRead then some false
      else
        let fromSecond := second.readAt secondPosition bytesToRead
        if fromSecond.length = 0 then some false
        else
          let buf := fromSecond ++ buf.drop fromSecond.length
          if fromFirst ≠ buf.take bytesToRead then some false
          else
            compareFrom first second bytesRemain fuel (firstPosition + fromFirst.length)
              (secondPosition + fromSecond.length) buf

def fileEquals (files : Files) (file1 file2 : String) : Option Bool :=
  if fileSize files file1 ≠ fileSize files file2 then some false
  else
    let bytesRemain := fileSize files file1
    match files file1, files file2 with
    | some first, some second =>
        if bytesRemain > 0 then
          compareFrom first.content second.content bytesRemain (bytesRemain + 1) 0 0
            (zeros bufferSize)
        else some true
    -- A file that is not there has size 0.
    | _, _ => some true

def rename (files : Files) (src dst : String) (file : StoredFile) : Files :=
  Function.update (Function.update files src none) dst (some file)

def renameFile (files : Files) (src dst : String) : Files :=
  if src ≠ dst then
    match files src with
    | some file => rename files src dst file
    | none => files
  else files

def moveIfChanged (files : Files) (src dst : String) : Option (Bool × Files) := do
  if ← fileEquals files src dst then return (false, files)
  else return (true, renameFile files src dst)

/-! ## What is found equal -/

variable {files : Files} {src dst : String} {source target : StoredFile}

theorem length_readAt (content : Bytes) (position count : Nat) :
    (content.readAt position count).length = min count (content.length - position) := by
  rw [readAt, List.length_take, List.length_drop]

theorem compareFrom_eq_false {first second buf : Bytes} {fuel firstPosition secondPosition : Nat}
    (nonempty : first ≠ []) (inside : firstPosition ≤ first.length)
    (enough : first.length < firstPosition + fuel) :
    compareFrom first second first.length fuel firstPosition secondPosition buf = some false := by
  induction fuel generalizing firstPosition secondPosition buf with
  | zero => omega
  | succ fuel induction =>
      have positive : 0 < min first.length bufferSize :=
        Nat.lt_min.mpr ⟨List.length_pos_iff.mpr nonempty, by decide⟩
      rw [compareFrom]
      dsimp only
      by_cases short : (first.readAt firstPosition (min first.length bufferSize)).length ≠
          min first.length bufferSize
      · rw [if_pos short]
      · rw [if_neg short]
        have whole := not_not.mp short
        rw [whole]
        rw [length_readAt] at whole
        split
        · rfl
        · split
          · rfl
          · exact induction (by omega) (by omega)

theorem fileEquals_eq (isSource : files src = some source) (isTarget : files dst = some target) :
    fileEquals files src dst = some (decide (source.content = [] ∧ target.content = [])) := by
  have sourceSize : fileSize files src = source.content.length := by
    rw [fileSize, isSource]
    rfl
  have targetSize : fileSize files dst = target.content.length := by
    rw [fileSize, isTarget]
    rfl
  rw [fileEquals, isSource, isTarget, sourceSize, targetSize]
  dsimp only
  by_cases sameSize : source.content.length ≠ target.content.length
  · rw [if_pos sameSize]
    have notBoth : ¬ (source.content = [] ∧ target.content = []) := by
      rintro ⟨sourceEmpty, targetEmpty⟩
      exact sameSize (by rw [sourceEmpty, targetEmpty])
    rw [decide_eq_false notBoth]
  · rw [if_neg sameSize]
    by_cases empty : source.content = []
    · have targetEmpty : target.content = [] := by
        rw [← List.length_eq_zero_iff, ← not_not.mp sameSize, empty, List.length_nil]
      rw [if_neg (by simp [empty]), decide_eq_true ⟨empty, targetEmpty⟩]
    · have positive := List.length_pos_iff.mpr empty
      rw [if_pos positive, compareFrom_eq_false empty (Nat.zero_le _) (by omega),
        decide_eq_false (fun both => empty both.1)]

/-- The files are compared, and the file is moved if the contents differ. -/
def ComparedAndMoved (files : Files) (src dst : String) (source target : StoredFile) : Prop :=
  fileEquals files src dst = some (decide (source.content = target.content)) ∧
    (moveIfChanged files src dst).map (·.2) =
      some (if source.content = target.content then files else renameFile files src dst)

/-- Files of which neither is empty are taken for different even if they are not. -/
theorem comparedAndMoved_iff (isSource : files src = some source)
    (isTarget : files dst = some target) :
    ComparedAndMoved files src dst source target ↔
      source.content ≠ target.content ∨ source.content = [] := by
  have found := fileEquals_eq isSource isTarget
  constructor
  · rintro ⟨isEqual, -⟩
    by_contra neither
    rcases not_or.mp neither with ⟨same, nonempty⟩
    rw [found, not_not.mp same] at isEqual
    simp only [and_self, decide_true, Option.some.injEq, decide_eq_true_eq] at isEqual
    exact nonempty ((not_not.mp same).trans isEqual)
  · intro condition
    have isEqual : (source.content = [] ∧ target.content = []) ↔
        source.content = target.content := by
      rcases condition with different | empty
      · constructor
        · rintro ⟨sourceEmpty, targetEmpty⟩
          rw [sourceEmpty, targetEmpty]
        · exact fun same => absurd same different
      · rw [empty]
        exact ⟨fun both => both.2.symm, fun same => ⟨rfl, same.symm⟩⟩
    have compared : fileEquals files src dst = some (decide (source.content = target.content)) := by
      rw [found, decide_eq_decide.mpr isEqual]
    refine ⟨compared, ?_⟩
    rw [moveIfChanged, compared]
    by_cases same : source.content = target.content
    · simp [same]
    · simp [same]

theorem comparedAndMoved_changed :
    ComparedAndMoved (Function.update (Function.update (fun _ => none) "src" (some ⟨[1], 2⟩)) "dst"
      (some ⟨[2], 1⟩)) "src" "dst" ⟨[1], 2⟩ ⟨[2], 1⟩ :=
  (comparedAndMoved_iff (by simp [Function.update]) (by simp)).mpr (.inl (by decide))

/-- Two files with the same byte. -/
theorem equal_files_moved :
    ¬ ∀ (files : Files) (src dst : String) (source target : StoredFile),
      files src = some source → files dst = some target →
        ComparedAndMoved files src dst source target := by
  intro always
  have compared := (always (fun _ => some ⟨[1], 1⟩) "src" "dst" _ _ rfl rfl).1
  have isFalse : fileEquals (fun _ => some ⟨[1], 1⟩) "src" "dst" = some false := by decide
  rw [isFalse] at compared
  cases compared

end Cuttlefish.AssembleCvd.FileComparison
