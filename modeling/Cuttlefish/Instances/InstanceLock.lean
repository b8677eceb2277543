import Cuttlefish.Foundation.Run

/-! # Instance locks

`InstanceLockFileManager` and `LockFileManager` of
`host/commands/cvd/instances/lock`, as steps of any number of processes over one
file system. A lock belongs to the inode that was opened, and an inode without
a path stays locked by its holder. The in-use byte inside the file plays no part
here. -/

namespace Cuttlefish.Instances

def lockFilePath (instanceLocksPath : String) (instanceNum : UInt32) : String :=
  instanceLocksPath ++ "local-instance-" ++ toString instanceNum ++ ".lock"

namespace InstanceLock

/-- A descriptor from `OpenLockFile`. Once it is locked, its owner holds an
`InstanceLockFile` for the number. -/
structure Handle (Pid : Type) where
  owner : Pid
  instanceNum : UInt32
  inode : Nat
  locked : Bool
  deriving DecidableEq

/-- The lock directory, the number of the next inode, and the open
descriptors. -/
structure State (Pid : Type) where
  directory : String → Option Nat
  nextInode : Nat
  handles : List (Handle Pid)

/-- A file system with some lock files, none of which is open. -/
def State.initial {Pid : Type} (directory : String → Option Nat) (nextInode : Nat) :
    State Pid where
  directory := directory
  nextInode := nextInode
  handles := []

/-- The steps of `AcquireLock`, `TryAcquireLock`, `AcquireUnusedLock`,
`RemoveLockFile` and of the destructor of a lock. Handles are named by their
position. -/
inductive Op (Pid : Type)
  | openLockFile (owner : Pid) (instanceNum : UInt32)
  | flock (index : Nat)
  | wouldBlock (index : Nat)
  | release (index : Nat)
  | removeLockFile (instanceNum : UInt32)
  deriving DecidableEq

section Steps

variable {Pid : Type} (instanceLocksPath : String)

def State.contended (state : State Pid) (index : Nat) (handle : Handle Pid) : Bool :=
  (state.handles.eraseIdx index).any fun other => other.locked && other.inode == handle.inode

def State.openPath (state : State Pid) (path : String) : Nat × State Pid :=
  match state.directory path with
  | some inode => (inode, state)
  | none =>
      (state.nextInode,
        { state with
          directory := fun other =>
            if other = path then some state.nextInode else state.directory other
          nextInode := state.nextInode + 1 })

def State.step (state : State Pid) : Op Pid → Option (State Pid)
  | .openLockFile owner instanceNum =>
      let (inode, state) := state.openPath (lockFilePath instanceLocksPath instanceNum)
      some { state with handles := state.handles ++ [⟨owner, instanceNum, inode, false⟩] }
  | .flock index =>
      match state.handles[index]? with
      | none => none
      | some handle =>
          if handle.locked || state.contended index handle then none
          else some { state with handles := state.handles.set index { handle with locked := true } }
  | .wouldBlock index =>
      match state.handles[index]? with
      | none => none
      | some handle =>
          if !handle.locked && state.contended index handle then
            some { state with handles := state.handles.eraseIdx index }
          else none
  | .release index =>
      match state.handles[index]? with
      | none => none
      | some handle =>
          if handle.locked then some { state with handles := state.handles.eraseIdx index }
          else none
  | .removeLockFile instanceNum =>
      some { state with
        directory := fun path =>
          if path = lockFilePath instanceLocksPath instanceNum then none
          else state.directory path }

/-- No two `InstanceLockFile`s for the same number are held. -/
def MutualExclusion (state : State Pid) : Prop :=
  state.handles.Pairwise fun first second =>
    first.locked = true → second.locked = true → first.instanceNum ≠ second.instanceNum

/-- A lock file is removed only while nobody has it open. -/
def RemovesUnopened (state : State Pid) : Op Pid → Prop
  | .removeLockFile instanceNum =>
      ∀ handle ∈ state.handles, lockFilePath instanceLocksPath handle.instanceNum ≠
        lockFilePath instanceLocksPath instanceNum
  | _ => True

instance RemovesUnopened.decidable (state : State Pid) :
    ∀ op, Decidable (RemovesUnopened instanceLocksPath state op)
  | .removeLockFile _ => inferInstanceAs (Decidable (∀ _ ∈ _, _))
  | .openLockFile _ _ => isTrue trivial
  | .flock _ => isTrue trivial
  | .wouldBlock _ => isTrue trivial
  | .release _ => isTrue trivial

/-! ## Every open lock file is the one at its path -/

structure Linked (state : State Pid) : Prop where
  lockedOnce : state.handles.Pairwise fun first second =>
    first.locked = true → second.locked = true → first.inode ≠ second.inode
  linked : ∀ handle ∈ state.handles,
    state.directory (lockFilePath instanceLocksPath handle.instanceNum) = some handle.inode

variable {instanceLocksPath} {state next : State Pid}

theorem Linked.mutualExclusion (linked : Linked instanceLocksPath state) :
    MutualExclusion state := by
  apply List.Pairwise.imp_of_mem ?_ linked.lockedOnce
  intro first second firstMember secondMember lockedOnce firstLocked secondLocked sameNumber
  have firstInode := linked.linked first firstMember
  have secondInode := linked.linked second secondMember
  rw [sameNumber, secondInode] at firstInode
  exact lockedOnce firstLocked secondLocked (Option.some.inj firstInode).symm

theorem Linked.openPath (linked : Linked instanceLocksPath state) (path : String) :
    Linked instanceLocksPath (state.openPath path).2 ∧
      (state.openPath path).2.directory path = some (state.openPath path).1 := by
  rw [State.openPath]
  cases found : state.directory path with
  | some inode => exact ⟨linked, found⟩
  | none =>
      refine ⟨⟨linked.lockedOnce, ?_⟩, by simp⟩
      intro handle member
      have old := linked.linked handle member
      have different : lockFilePath instanceLocksPath handle.instanceNum ≠ path := by
        intro same
        rw [same, found] at old
        cases old
      simp only [different, if_false]
      exact old

theorem Linked.openLockFile (linked : Linked instanceLocksPath state) (owner : Pid)
    (instanceNum : UInt32)
    (stepped : state.step instanceLocksPath (.openLockFile owner instanceNum) = some next) :
    Linked instanceLocksPath next := by
  rcases linked.openPath (lockFilePath instanceLocksPath instanceNum) with ⟨opened, found⟩
  cases stepped
  constructor
  · refine List.pairwise_append.mpr ⟨opened.lockedOnce, List.pairwise_singleton _ _, ?_⟩
    intro first _ second member _ secondLocked
    rw [List.mem_singleton.mp member] at secondLocked
    cases secondLocked
  · intro handle member
    rcases List.mem_append.mp member with old | new
    · exact opened.linked handle old
    · rw [List.mem_singleton.mp new]
      exact found

theorem Linked.flock (linked : Linked instanceLocksPath state) {index : Nat}
    (stepped : state.step instanceLocksPath (.flock index) = some next) :
    Linked instanceLocksPath next := by
  simp only [State.step] at stepped
  split at stepped
  · cases stepped
  · rename_i handle found
    split at stepped
    · cases stepped
    · rename_i granted
      cases stepped
      rcases List.getElem?_eq_some_iff.mp found with ⟨inRange, handleEq⟩
      rcases @List.exists_of_set _ index { handle with locked := true } _ inRange with
        ⟨before, after, split, length, updated⟩
      rw [handleEq] at split
      have free : ∀ other ∈ before ++ after, other.locked = true →
          other.inode ≠ handle.inode := by
        intro other member otherLocked sameInode
        apply granted
        have others : state.handles.eraseIdx index = before ++ after := by
          rw [split, ← length, List.eraseIdx_append_of_length_le (Nat.le_refl _)]
          simp
        simp only [State.contended, others, Bool.or_eq_true, List.any_eq_true]
        exact .inr ⟨other, member, by simp [otherLocked, sameInode]⟩
      have rest : (before ++ after).Pairwise fun first second =>
          first.locked = true → second.locked = true → first.inode ≠ second.inode := by
        have whole := linked.lockedOnce
        rw [split] at whole
        exact whole.sublist (List.Sublist.append (List.Sublist.refl _)
          (List.sublist_cons_self _ _))
      rcases List.pairwise_append.mp rest with ⟨beforePairs, afterPairs, crossPairs⟩
      constructor
      · simp only [updated]
        refine List.pairwise_append.mpr ⟨beforePairs, List.pairwise_cons.mpr ⟨?_, afterPairs⟩, ?_⟩
        · intro other member _ otherLocked
          exact (free other (List.mem_append_right _ member) otherLocked).symm
        · intro first firstMember second secondMember firstLocked secondLocked
          rcases List.mem_cons.mp secondMember with equal | later
          · rw [equal]
            exact free first (List.mem_append_left _ firstMember) firstLocked
          · exact crossPairs first firstMember second later firstLocked secondLocked
      · simp only [updated]
        intro other member
        have members : other = { handle with locked := true } ∨ other ∈ state.handles := by
          rw [split]
          simp only [List.mem_append, List.mem_cons] at member ⊢
          rcases member with early | same | late
          · exact .inr (.inl early)
          · exact .inl same
          · exact .inr (.inr (.inr late))
        rcases members with equal | old
        · rw [equal]
          exact linked.linked handle (split ▸ by simp)
        · exact linked.linked other old

theorem Linked.eraseIdx (linked : Linked instanceLocksPath state) (index : Nat) :
    Linked instanceLocksPath { state with handles := state.handles.eraseIdx index } where
  lockedOnce := linked.lockedOnce.sublist (List.eraseIdx_sublist _ _)
  linked handle member := linked.linked handle (List.mem_of_mem_eraseIdx member)

theorem Linked.step (linked : Linked instanceLocksPath state) {op : Op Pid}
    (allowed : RemovesUnopened instanceLocksPath state op)
    (stepped : state.step instanceLocksPath op = some next) :
    Linked instanceLocksPath next := by
  cases op with
  | openLockFile owner instanceNum => exact linked.openLockFile owner instanceNum stepped
  | flock index => exact linked.flock stepped
  | wouldBlock index =>
      simp only [State.step] at stepped
      split at stepped
      · cases stepped
      · split at stepped
        · cases stepped
          exact linked.eraseIdx index
        · cases stepped
  | release index =>
      simp only [State.step] at stepped
      split at stepped
      · cases stepped
      · split at stepped
        · cases stepped
          exact linked.eraseIdx index
        · cases stepped
  | removeLockFile instanceNum =>
      cases stepped
      refine ⟨linked.lockedOnce, ?_⟩
      intro handle member
      simp only [allowed handle member, if_false]
      exact linked.linked handle member

/-- In every interleaving that removes lock files only while nobody has them
open, no instance number is held twice. -/
theorem mutualExclusion_of_removesUnopened (instanceLocksPath : String)
    (directory : String → Option Nat) (nextInode : Nat) (ops : List (Op Pid))
    (allowed : Run.Along (State.step instanceLocksPath) (RemovesUnopened instanceLocksPath)
      (State.initial directory nextInode) ops) :
    Run.Always (State.step instanceLocksPath) MutualExclusion
      (State.initial directory nextInode) ops := by
  have preserved : ∀ (state : State Pid) op next, Linked instanceLocksPath state →
      RemovesUnopened instanceLocksPath state op →
      state.step instanceLocksPath op = some next → Linked instanceLocksPath next :=
    fun _ _ _ linked allowed stepped => linked.step allowed stepped
  have initial : Linked instanceLocksPath
      (State.initial directory nextInode : State Pid) :=
    ⟨List.Pairwise.nil, by simp [State.initial]⟩
  exact Run.always_of_along preserved (fun _ linked => linked.mutualExclusion) initial allowed

end Steps

def sampleOpsInTurn : List (Op Nat) :=
  [.openLockFile 1 7, .flock 0, .release 0, .removeLockFile 7, .openLockFile 3 7, .flock 0]

/-- The file is removed while the first process holds the lock. -/
def sampleOpsRemoved : List (Op Nat) :=
  [.openLockFile 1 7, .flock 0, .removeLockFile 7, .openLockFile 3 7, .flock 1]

theorem mutualExclusion_of_removesUnopened_in_turn :
    Run.Along (State.step "/tmp/") (RemovesUnopened "/tmp/")
        (State.initial (fun _ => none) 0) sampleOpsInTurn ∧
      Run.Always (State.step "/tmp/") MutualExclusion (State.initial (fun _ => none) 0)
        sampleOpsInTurn := by
  have allowed : Run.Along (State.step "/tmp/") (RemovesUnopened "/tmp/")
      (State.initial (fun _ => none) 0) sampleOpsInTurn := by decide
  exact ⟨allowed, mutualExclusion_of_removesUnopened "/tmp/" (fun _ => none) 0
    sampleOpsInTurn allowed⟩

/-- Two processes hold the lock of instance 7, on two inodes. -/
theorem removed_lock_is_held_twice :
    ∃ final, Run.run (State.step "/tmp/") (State.initial (fun _ => none) 0)
        sampleOpsRemoved = some final ∧
      final.handles = [⟨1, 7, 0, true⟩, ⟨3, 7, 1, true⟩] ∧ ¬ MutualExclusion final := by
  refine ⟨_, rfl, rfl, ?_⟩
  intro exclusive
  have distinct := List.rel_of_pairwise_cons exclusive (List.mem_singleton_self _)
  exact distinct rfl rfl rfl

end InstanceLock

end Cuttlefish.Instances
