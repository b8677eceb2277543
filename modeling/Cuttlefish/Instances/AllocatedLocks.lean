import Mathlib.Data.List.Forall2
import Mathlib.Logic.Relation
import Cuttlefish.Instances.InstanceLock

/-! # Allocating instance ids

`AllocateAndLockInstanceIds` of `host/commands/cvd/instances`, as one process sees the lock
files. Between two of its calls other processes may take and release locks, write states,
and create and remove files, but they neither remove a file that the process has open nor
lock or write one that it has locked. -/

namespace Cuttlefish.Instances

inductive InUseState
  | inUse
  | notInUse
  deriving DecidableEq

namespace InUseState

def char : InUseState → Char
  | .inUse => 'I'
  | .notInUse => 'N'

def ofContent : List Char → Option InUseState
  | [] => some .notInUse
  | first :: _ =>
      if first = inUse.char then some .inUse
      else if first = notInUse.char then some .notInUse
      else none

end InUseState

/-- The lock files at one moment: the inode at every path and the next one to be created,
the inodes that are locked through descriptors of others, and what the files have. -/
structure LockFiles where
  inode : String → Option Nat
  nextInode : Nat
  lockedByOthers : Nat → Bool
  content : Nat → List Char

structure LockFile where
  path : String
  inode : Nat
  locked : Bool
  deriving DecidableEq

structure InstanceLockFile where
  lockFile : LockFile
  instanceNum : UInt32

structure Moment where
  files : LockFiles
  succeeds : Bool

/-- The files, and the descriptors of the process with the last one in front. -/
structure LockWorld where
  files : LockFiles
  opened : List LockFile
  moment : Nat

namespace LockWorld

def initial (files : LockFiles) : LockWorld where
  files := files
  opened := []
  moment := 0

def locks (world : LockWorld) (inode : Nat) : Bool :=
  world.opened.any fun file => file.locked && file.inode == inode

def opens (world : LockWorld) (path : String) : Bool :=
  world.opened.any fun file => file.path == path

variable (moments : Nat → Moment)

def others (world : LockWorld) : LockWorld :=
  let left := (moments world.moment).files
  { world with
    files :=
      { inode := fun path =>
          if world.opens path then world.files.inode path else left.inode path
        nextInode := left.nextInode
        lockedByOthers := fun inode => left.lockedByOthers inode && !world.locks inode
        content := fun inode =>
          if world.locks inode then world.files.content inode else left.content inode }
    moment := world.moment + 1 }

def create (world : LockWorld) (path : String) : LockWorld :=
  { world with
    files :=
      { world.files with
        inode := fun other =>
          if other = path then some world.files.nextInode else world.files.inode other
        content := fun inode =>
          if inode = world.files.nextInode then [] else world.files.content inode } }

def push (world : LockWorld) (file : LockFile) : LockWorld :=
  { world with opened := file :: world.opened }

def close (world : LockWorld) : LockWorld := { world with opened := world.opened.tail }

def openLockFile (world : LockWorld) (path : String) : Option LockWorld :=
  if (moments world.moment).succeeds then
    let world := world.others moments
    match world.files.inode path with
    | some inode => some (world.push ⟨path, inode, false⟩)
    | none => some ((world.create path).push ⟨path, world.files.nextInode, false⟩)
  else none

/-- `Flock` of the last descriptor, with the locked file. Where another descriptor has the
lock there is no file, and the descriptor is closed. -/
def flock (world : LockWorld) : Option (Option LockFile × LockWorld) :=
  if (moments world.moment).succeeds then
    let world := world.others moments
    match world.opened with
    | [] => none
    | file :: rest =>
        if world.files.lockedByOthers file.inode || { world with opened := rest }.locks file.inode
        then some (none, { world with opened := rest })
        else
          some (some { file with locked := true },
            { world with opened := { file with locked := true } :: rest })
  else none

/-! ### Open files stay at their paths -/

def Linked (world : LockWorld) : Prop :=
  ∀ file ∈ world.opened, world.files.inode file.path = some file.inode

/-- The process has the lock of the file at this path. -/
def Holds (world : LockWorld) (path : String) : Prop :=
  ∃ file ∈ world.opened, file.locked = true ∧ file.path = path

section

variable {moments} {world next : LockWorld} {path : String} {file : LockFile}
  {rest : List LockFile}

theorem locks_of_mem (member : file ∈ world.opened) (locked : file.locked = true) :
    world.locks file.inode = true := by
  rw [locks, List.any_eq_true]
  exact ⟨file, member, by simp [locked]⟩

theorem opens_of_mem (member : file ∈ world.opened) : world.opens file.path = true := by
  rw [opens, List.any_eq_true]
  exact ⟨file, member, by simp⟩

theorem Linked.others (linked : Linked world) : Linked (world.others moments) := by
  intro file member
  change (if world.opens file.path then world.files.inode file.path
    else (moments world.moment).files.inode file.path) = some file.inode
  rw [if_pos (@opens_of_mem world file member)]
  exact linked file member

theorem Linked.create (linked : Linked world) (isFree : world.files.inode path = none) :
    Linked (world.create path) := by
  intro file member
  have different : file.path ≠ path := by
    intro same
    have isLinked := linked file member
    rw [same, isFree] at isLinked
    cases isLinked
  change (if file.path = path then some world.files.nextInode
    else world.files.inode file.path) = some file.inode
  rw [if_neg different]
  exact linked file member

theorem Linked.push (linked : Linked world)
    (isLinked : world.files.inode file.path = some file.inode) :
    Linked (world.push file) := by
  intro other member
  rcases List.mem_cons.mp member with same | old
  · rw [same]
    exact isLinked
  · exact linked other old

theorem Linked.close (linked : Linked world) : Linked world.close := by
  intro file member
  exact linked file (List.mem_of_mem_tail member)

theorem openLockFile_spec (linked : Linked world)
    (isOpened : world.openLockFile moments path = some next) :
    Linked next ∧ ∃ inode, next.opened = ⟨path, inode, false⟩ :: world.opened := by
  rw [openLockFile] at isOpened
  split at isOpened
  next =>
    have linkedThen := @Linked.others moments world linked
    dsimp only at isOpened
    cases found : (world.others moments).files.inode path with
    | some inode =>
        rw [found] at isOpened
        cases isOpened
        exact ⟨linkedThen.push found, inode, rfl⟩
    | none =>
        rw [found] at isOpened
        cases isOpened
        constructor
        · apply (linkedThen.create found).push
          change (if path = path then some (world.others moments).files.nextInode else _) = _
          rw [if_pos rfl]
        · exact ⟨_, rfl⟩
  next => cases isOpened

theorem flock_spec (linked : Linked world) (isOpened : world.opened = file :: rest)
    {result : Option LockFile} (locked : world.flock moments = some (result, next)) :
    Linked next ∧
      (result = none ∧ next.opened = rest ∨
        result = some { file with locked := true } ∧
          next.opened = { file with locked := true } :: rest ∧
          ∀ other ∈ rest, other.locked = true → other.inode ≠ file.inode) := by
  have linkedThen := @Linked.others moments world linked
  have isOpenedThen : (world.others moments).opened = file :: rest := isOpened
  rw [flock] at locked
  split at locked
  next =>
    dsimp only at locked
    rw [isOpenedThen] at locked
    dsimp only at locked
    split at locked
    next =>
      cases locked
      constructor
      · intro other member
        exact linkedThen other (isOpenedThen ▸ List.mem_cons_of_mem _ member)
      · exact .inl ⟨rfl, rfl⟩
    next notContended =>
      cases locked
      rw [Bool.or_eq_true, not_or] at notContended
      constructor
      · intro other member
        rcases List.mem_cons.mp member with same | old
        · rw [same]
          exact linkedThen file (isOpenedThen ▸ List.mem_cons_self)
        · exact linkedThen other (isOpenedThen ▸ List.mem_cons_of_mem _ old)
      · refine .inr ⟨rfl, rfl, ?_⟩
        intro other member isLocked sameInode
        apply notContended.2
        rw [← sameInode]
        exact @locks_of_mem { world.others moments with opened := rest } other member isLocked
  next => cases locked

end

end LockWorld

/-! ## The lock manager -/

namespace InstanceLockFileManager

variable (instanceLocksPath : String) (moments : Nat → Moment)

def tryAcquireLock (instanceNum : UInt32) (world : LockWorld) :
    Option (Option InstanceLockFile × LockWorld) :=
  match world.openLockFile moments (lockFilePath instanceLocksPath instanceNum) with
  | none => none
  | some world =>
      match world.flock moments with
      | none => none
      | some (lockFile, world) =>
          some (lockFile.map fun lockFile => ⟨lockFile, instanceNum⟩, world)

def acquireLock (instanceNum : UInt32) (world : LockWorld) :
    Option (InstanceLockFile × LockWorld) :=
  match tryAcquireLock instanceLocksPath moments instanceNum world with
  | none => none
  | some (none, _) => none
  | some (some lock, world) => some (lock, world)

def status (lock : InstanceLockFile) (world : LockWorld) : Option (InUseState × LockWorld) :=
  if (moments world.moment).succeeds then
    let world := world.others moments
    match InUseState.ofContent (world.files.content lock.lockFile.inode) with
    | none => none
    | some state => some (state, world)
  else none

def acquireUnusedLock : Nat → UInt32 → LockWorld → Option (InstanceLockFile × LockWorld)
  | 0, _, _ => none
  | rounds + 1, instanceNum, world =>
      match tryAcquireLock instanceLocksPath moments instanceNum world with
      | none => none
      | some (none, world) => acquireUnusedLock rounds (instanceNum + 1) world
      | some (some lock, world) =>
          match status moments lock world with
          | none => none
          | some (.notInUse, world) => some (lock, world)
          | some (.inUse, world) => acquireUnusedLock rounds (instanceNum + 1) world.close

/-! ### What the calls do -/

/-- The calls of the lock manager from one world to the next. -/
inductive Call : LockWorld → LockWorld → Prop
  | tryAcquireLock {instanceNum : UInt32} {world next : LockWorld} {lock : Option InstanceLockFile}
      (acquired : tryAcquireLock instanceLocksPath moments instanceNum world = some (lock, next)) :
      Call world next
  | status {lock : InstanceLockFile} {world next : LockWorld} {state : InUseState}
      (read : status moments lock world = some (state, next)) : Call world next
  | close (world : LockWorld) : Call world world.close

def Reaches : LockWorld → LockWorld → Prop := Relation.ReflTransGen (Call instanceLocksPath moments)

structure Acquired (world : LockWorld) (lock : InstanceLockFile) (next : LockWorld) : Prop where
  linked : next.Linked
  locked : lock.lockFile.locked = true
  path : lock.lockFile.path = lockFilePath instanceLocksPath lock.instanceNum
  opened : next.opened = lock.lockFile :: world.opened
  free : ¬ world.Holds (lockFilePath instanceLocksPath lock.instanceNum)

/-- Between the start and the end the lock was acquired and then read as not in use. -/
def FoundUnused (start : LockWorld) (lock : InstanceLockFile) (final : LockWorld) : Prop :=
  ∃ before acquired read, Reaches instanceLocksPath moments start before ∧
    tryAcquireLock instanceLocksPath moments lock.instanceNum before = some (some lock, acquired) ∧
    status moments lock acquired = some (.notInUse, read) ∧
    Reaches instanceLocksPath moments read final

section

variable {instanceLocksPath moments} {world next start final : LockWorld} {instanceNum : UInt32}
  {lock : InstanceLockFile}

theorem FoundUnused.extend (found : FoundUnused instanceLocksPath moments world lock next)
    (before : Reaches instanceLocksPath moments start world)
    (after : Reaches instanceLocksPath moments next final) :
    FoundUnused instanceLocksPath moments start lock final := by
  rcases found with ⟨tried, acquired, read, reached, isAcquired, isRead, rest⟩
  exact ⟨tried, acquired, read, before.trans reached, isAcquired, isRead, rest.trans after⟩

theorem tryAcquireLock_eq_some {found : Option InstanceLockFile}
    (tried : tryAcquireLock instanceLocksPath moments instanceNum world = some (found, next)) :
    ∃ opened lockFile,
      world.openLockFile moments (lockFilePath instanceLocksPath instanceNum) = some opened ∧
        opened.flock moments = some (lockFile, next) ∧
        found = lockFile.map fun lockFile => ⟨lockFile, instanceNum⟩ := by
  rw [tryAcquireLock] at tried
  cases isOpened : world.openLockFile moments (lockFilePath instanceLocksPath instanceNum) with
  | none =>
      rw [isOpened] at tried
      cases tried
  | some opened =>
      rw [isOpened] at tried
      dsimp only at tried
      cases locked : opened.flock moments with
      | none =>
          rw [locked] at tried
          cases tried
      | some result =>
          rcases result with ⟨lockFile, after⟩
          rw [locked] at tried
          cases tried
          exact ⟨opened, lockFile, rfl, locked, rfl⟩

theorem tryAcquireLock_none (linked : world.Linked)
    (tried : tryAcquireLock instanceLocksPath moments instanceNum world = some (none, next)) :
    next.Linked ∧ next.opened = world.opened := by
  rcases tryAcquireLock_eq_some tried with ⟨opened, lockFile, isOpened, locked, isNone⟩
  rcases LockWorld.openLockFile_spec linked isOpened with ⟨openLinked, inode, inFront⟩
  rcases LockWorld.flock_spec openLinked inFront locked with ⟨isLinked, effect⟩
  rcases effect with ⟨-, same⟩ | ⟨isSome, -⟩
  · exact ⟨isLinked, same⟩
  · rw [isSome] at isNone
    cases isNone

theorem tryAcquireLock_some (linked : world.Linked)
    (tried : tryAcquireLock instanceLocksPath moments instanceNum world = some (some lock, next)) :
    lock.instanceNum = instanceNum ∧ Acquired instanceLocksPath world lock next := by
  rcases tryAcquireLock_eq_some tried with ⟨opened, lockFile, isOpened, locked, isLock⟩
  rcases LockWorld.openLockFile_spec linked isOpened with ⟨openLinked, inode, inFront⟩
  rcases LockWorld.flock_spec openLinked inFront locked with ⟨isLinked, effect⟩
  rcases effect with ⟨isNone, -⟩ | ⟨isSome, isAfter, free⟩
  · rw [isNone] at isLock
    cases isLock
  · rw [isSome] at isLock
    cases isLock
    refine ⟨rfl, isLinked, rfl, rfl, isAfter, ?_⟩
    intro held
    rcases held with ⟨other, member, isLocked, samePath⟩
    -- Both are the file at the path.
    have first := openLinked other (inFront ▸ List.mem_cons_of_mem _ member)
    have second := openLinked _ (inFront ▸ List.mem_cons_self)
    rw [samePath] at first
    exact free other member isLocked (Option.some.inj (first.symm.trans second))

theorem acquireLock_eq_some
    (acquired : acquireLock instanceLocksPath moments instanceNum world = some (lock, next)) :
    tryAcquireLock instanceLocksPath moments instanceNum world = some (some lock, next) := by
  rw [acquireLock] at acquired
  cases tried : tryAcquireLock instanceLocksPath moments instanceNum world with
  | none =>
      rw [tried] at acquired
      cases acquired
  | some result =>
      rcases result with ⟨found, after⟩
      rw [tried] at acquired
      cases found with
      | none => cases acquired
      | some found =>
          cases acquired
          rfl

theorem status_spec {state : InUseState} (linked : world.Linked)
    (read : status moments lock world = some (state, next)) :
    next.Linked ∧ next.opened = world.opened := by
  rw [status] at read
  split at read
  next =>
    dsimp only at read
    cases isState : InUseState.ofContent
        ((world.others moments).files.content lock.lockFile.inode) with
    | none =>
        rw [isState] at read
        cases read
    | some found =>
        rw [isState] at read
        cases read
        exact ⟨linked.others, rfl⟩
  next => cases read

theorem Acquired.of_opened (acquired : Acquired instanceLocksPath world lock next)
    (same : world.opened = start.opened) : Acquired instanceLocksPath start lock next where
  linked := acquired.linked
  locked := acquired.locked
  path := acquired.path
  opened := same ▸ acquired.opened
  free := by
    have free := acquired.free
    rw [LockWorld.Holds, same] at free
    exact free

theorem Acquired.mem (acquired : Acquired instanceLocksPath world lock next) :
    lock.lockFile ∈ next.opened := by
  rw [acquired.opened]
  exact List.mem_cons_self

theorem Acquired.subset (acquired : Acquired instanceLocksPath world lock next) :
    world.opened ⊆ next.opened := by
  rw [acquired.opened]
  exact List.subset_cons_self _ _

theorem acquireUnusedLock_spec {rounds : Nat} (linked : world.Linked)
    (acquired : acquireUnusedLock instanceLocksPath moments rounds instanceNum world =
      some (lock, final)) :
    Acquired instanceLocksPath world lock final ∧
      FoundUnused instanceLocksPath moments world lock final ∧
      Reaches instanceLocksPath moments world final := by
  induction rounds generalizing instanceNum world with
  | zero => cases acquired
  | succ rounds induction =>
      rw [acquireUnusedLock] at acquired
      cases tried : tryAcquireLock instanceLocksPath moments instanceNum world with
      | none =>
          rw [tried] at acquired
          cases acquired
      | some result =>
          rcases result with ⟨found, after⟩
          rw [tried] at acquired
          have triedStep : Reaches instanceLocksPath moments world after :=
            .single (.tryAcquireLock tried)
          cases found with
          | none =>
              rcases tryAcquireLock_none linked tried with ⟨isLinked, same⟩
              rcases induction isLinked acquired with ⟨isAcquired, found, reached⟩
              exact ⟨isAcquired.of_opened same, found.extend triedStep .refl,
                triedStep.trans reached⟩
          | some found =>
              rcases tryAcquireLock_some linked tried with ⟨isNumber, isAcquired⟩
              dsimp only at acquired
              cases isStatus : status moments found after with
              | none =>
                  rw [isStatus] at acquired
                  cases acquired
              | some result =>
                  rcases result with ⟨state, readWorld⟩
                  rw [isStatus] at acquired
                  rcases status_spec isAcquired.linked isStatus with ⟨isLinked, same⟩
                  have readStep : Reaches instanceLocksPath moments after readWorld :=
                    .single (.status isStatus)
                  cases state with
                  | notInUse =>
                      cases acquired
                      refine ⟨⟨isLinked, isAcquired.locked, isAcquired.path,
                        same.trans isAcquired.opened, isAcquired.free⟩, ?_,
                        triedStep.trans readStep⟩
                      rw [← isNumber] at tried
                      exact ⟨world, after, final, .refl, tried, isStatus, .refl⟩
                  | inUse =>
                      have closeStep :
                          Reaches instanceLocksPath moments readWorld readWorld.close :=
                        .single (.close readWorld)
                      have toClosed := (triedStep.trans readStep).trans closeStep
                      have sameClosed : readWorld.close.opened = world.opened := by
                        change readWorld.opened.tail = world.opened
                        rw [same, isAcquired.opened]
                        rfl
                      rcases induction isLinked.close acquired with ⟨isAcquired, found, reached⟩
                      exact ⟨isAcquired.of_opened sameClosed, found.extend toClosed .refl,
                        toClosed.trans reached⟩

end

end InstanceLockFileManager

/-! ## The instance manager -/

structure InstanceParams where
  instanceId : Option UInt32
  perInstanceName : Option String
  deriving DecidableEq

structure InternalInstanceDesc where
  lockFile : InstanceLockFile
  name : Option String

namespace InstanceManager

open InstanceLockFileManager

variable (instanceLocksPath : String) (moments : Nat → Moment)

def lockRequested : List InstanceParams → List UInt32 → LockWorld →
    Option (List InstanceLockFile × LockWorld)
  | [], _, world => some ([], world)
  | params :: instances, requested, world =>
      match params.instanceId with
      | none => lockRequested instances requested world
      | some id =>
          if id ∈ requested then none
          else
            match acquireLock instanceLocksPath moments id world with
            | none => none
            | some (lock, world) =>
                match lockRequested instances (id :: requested) world with
                | none => none
                | some (locks, world) => some (lock :: locks, world)

def describe (rounds : Nat) : List InstanceParams → List InstanceLockFile → LockWorld →
    Option (List InternalInstanceDesc × LockWorld)
  | [], _, world => some ([], world)
  | params :: instances, locks, world =>
      match params.instanceId with
      | some _ =>
          match locks with
          | [] => none
          | lock :: locks =>
              match describe rounds instances locks world with
              | none => none
              | some (descs, world) => some (⟨lock, params.perInstanceName⟩ :: descs, world)
      | none =>
          match acquireUnusedLock instanceLocksPath moments rounds 1 world with
          | none => none
          | some (lock, world) =>
              match describe rounds instances locks world with
              | none => none
              | some (descs, world) => some (⟨lock, params.perInstanceName⟩ :: descs, world)

/-- `AllocateAndLockInstanceIds`; `none` where it fails, or is not done after the rounds of
`AcquireUnusedLock`. -/
def allocateAndLockInstanceIds (rounds : Nat) (instances : List InstanceParams)
    (world : LockWorld) : Option (List InternalInstanceDesc × LockWorld) :=
  match lockRequested instanceLocksPath moments instances [] world with
  | none => none
  | some (locks, world) => describe instanceLocksPath moments rounds instances locks world

/-! ### Every instance gets an id of its own -/

structure Held (world : LockWorld) (lock : InstanceLockFile) : Prop where
  mem : lock.lockFile ∈ world.opened
  locked : lock.lockFile.locked = true
  path : lock.lockFile.path = lockFilePath instanceLocksPath lock.instanceNum

/-- What an instance gets: its name, and its id or one that was not in use. -/
structure Allocated (start : LockWorld) (params : InstanceParams) (desc : InternalInstanceDesc)
    (final : LockWorld) : Prop where
  name : desc.name = params.perInstanceName
  requested : ∀ id, params.instanceId = some id → desc.lockFile.instanceNum = id
  unused : params.instanceId = none →
    FoundUnused instanceLocksPath moments start desc.lockFile final
  held : Held instanceLocksPath final desc.lockFile

structure Requested (world : LockWorld) (instances : List InstanceParams)
    (locks : List InstanceLockFile) (next : LockWorld) : Prop where
  linked : next.Linked
  reached : Reaches instanceLocksPath moments world next
  subset : world.opened ⊆ next.opened
  ids : locks.map InstanceLockFile.instanceNum = instances.filterMap InstanceParams.instanceId
  held : ∀ lock ∈ locks, Held instanceLocksPath next lock
  free : ∀ lock ∈ locks, ¬ world.Holds (lockFilePath instanceLocksPath lock.instanceNum)
  distinct : locks.Pairwise fun first second => first.instanceNum ≠ second.instanceNum

structure Described (world : LockWorld) (instances : List InstanceParams)
    (locks : List InstanceLockFile) (descs : List InternalInstanceDesc) (next : LockWorld) :
    Prop where
  reached : Reaches instanceLocksPath moments world next
  subset : world.opened ⊆ next.opened
  allocated : List.Forall₂
    (fun params desc => Allocated instanceLocksPath moments world params desc next)
    instances descs
  origin : ∀ desc ∈ descs, desc.lockFile ∈ locks ∨
    ¬ world.Holds (lockFilePath instanceLocksPath desc.lockFile.instanceNum)
  distinct : descs.Pairwise fun first second =>
    first.lockFile.instanceNum ≠ second.lockFile.instanceNum

section

variable {instanceLocksPath moments} {world next start final : LockWorld}
  {lock other : InstanceLockFile} {params : InstanceParams} {desc : InternalInstanceDesc}
  {instances : List InstanceParams}

theorem Held.of_acquired (acquired : Acquired instanceLocksPath world lock next) :
    Held instanceLocksPath next lock where
  mem := acquired.mem
  locked := acquired.locked
  path := acquired.path

theorem Held.mono (held : Held instanceLocksPath world lock)
    (subset : world.opened ⊆ next.opened) : Held instanceLocksPath next lock where
  mem := subset held.mem
  locked := held.locked
  path := held.path

theorem Held.holds (held : Held instanceLocksPath world lock) :
    world.Holds (lockFilePath instanceLocksPath lock.instanceNum) :=
  ⟨lock.lockFile, held.mem, held.locked, held.path⟩

theorem Held.ne_of_free (held : Held instanceLocksPath world lock)
    (free : ¬ world.Holds (lockFilePath instanceLocksPath other.instanceNum)) :
    lock.instanceNum ≠ other.instanceNum := by
  intro same
  exact free (same ▸ held.holds)

theorem holds_mono {path : String} (subset : world.opened ⊆ next.opened)
    (holds : world.Holds path) : next.Holds path := by
  rcases holds with ⟨file, member, locked, isPath⟩
  exact ⟨file, subset member, locked, isPath⟩

theorem Allocated.extend (allocated : Allocated instanceLocksPath moments world params desc final)
    (before : Reaches instanceLocksPath moments start world) :
    Allocated instanceLocksPath moments start params desc final where
  name := allocated.name
  requested := allocated.requested
  unused isNone := (allocated.unused isNone).extend before .refl
  held := allocated.held

theorem lockRequested_spec {requested : List UInt32} {locks : List InstanceLockFile}
    (linked : world.Linked)
    (locked : lockRequested instanceLocksPath moments instances requested world =
      some (locks, next)) :
    Requested instanceLocksPath moments world instances locks next := by
  induction instances generalizing requested world locks with
  | nil =>
      cases locked
      exact ⟨linked, .refl, List.Subset.refl _, rfl, by simp, by simp, .nil⟩
  | cons params instances induction =>
      rw [lockRequested] at locked
      cases isId : params.instanceId with
      | none =>
          rw [isId] at locked
          have rest := induction linked locked
          exact { rest with ids := by rw [rest.ids, List.filterMap_cons, isId] }
      | some id =>
          rw [isId] at locked
          dsimp only at locked
          split at locked
          next => cases locked
          next =>
            cases acquired : acquireLock instanceLocksPath moments id world with
            | none =>
                rw [acquired] at locked
                cases locked
            | some result =>
                rcases result with ⟨lock, after⟩
                rw [acquired] at locked
                dsimp only at locked
                have tried := acquireLock_eq_some acquired
                rcases tryAcquireLock_some linked tried with ⟨isNumber, isAcquired⟩
                cases others : lockRequested instanceLocksPath moments instances
                    (id :: requested) after with
                | none =>
                    rw [others] at locked
                    cases locked
                | some result =>
                    rcases result with ⟨laterLocks, last⟩
                    rw [others] at locked
                    cases locked
                    have rest := induction isAcquired.linked others
                    have isHeld := Held.of_acquired isAcquired
                    constructor
                    · exact rest.linked
                    · exact .head (.tryAcquireLock tried) rest.reached
                    · exact List.Subset.trans isAcquired.subset rest.subset
                    · rw [List.map_cons, rest.ids, isNumber, List.filterMap_cons, isId]
                    · intro held member
                      rcases List.mem_cons.mp member with same | later
                      · rw [same]
                        exact isHeld.mono rest.subset
                      · exact rest.held held later
                    · intro held member
                      rcases List.mem_cons.mp member with same | later
                      · rw [same]
                        exact isAcquired.free
                      · intro holds
                        exact rest.free held later (holds_mono isAcquired.subset holds)
                    · apply List.Pairwise.cons ?_ rest.distinct
                      intro held later
                      exact isHeld.ne_of_free (rest.free held later)

theorem Described.requested {locks : List InstanceLockFile} {descs : List InternalInstanceDesc}
    (isId : params.instanceId = some lock.instanceNum) (isHeld : Held instanceLocksPath world lock)
    (others : ∀ other ∈ locks, lock.instanceNum ≠ other.instanceNum)
    (rest : Described instanceLocksPath moments world instances locks descs next) :
    Described instanceLocksPath moments world (params :: instances) (lock :: locks)
      (⟨lock, params.perInstanceName⟩ :: descs) next := by
  constructor
  · exact rest.reached
  · exact rest.subset
  · apply List.Forall₂.cons ?_ rest.allocated
    refine ⟨rfl, ?_, ?_, isHeld.mono rest.subset⟩
    · intro wanted isWanted
      exact Option.some.inj (isId.symm.trans isWanted)
    · intro isNone
      rw [isId] at isNone
      cases isNone
  · intro desc member
    rcases List.mem_cons.mp member with same | inRest
    · rw [same]
      exact .inl List.mem_cons_self
    · exact (rest.origin desc inRest).imp_left (List.mem_cons_of_mem _)
  · apply List.Pairwise.cons ?_ rest.distinct
    intro desc member
    rcases rest.origin desc member with isRequested | free
    · exact others desc.lockFile isRequested
    · exact isHeld.ne_of_free free

theorem Described.acquired {locks : List InstanceLockFile} {descs : List InternalInstanceDesc}
    {after : LockWorld} (isNone : params.instanceId = none)
    (isAcquired : Acquired instanceLocksPath world lock after)
    (found : FoundUnused instanceLocksPath moments world lock after)
    (reached : Reaches instanceLocksPath moments world after)
    (held : ∀ lock ∈ locks, Held instanceLocksPath world lock)
    (rest : Described instanceLocksPath moments after instances locks descs next) :
    Described instanceLocksPath moments world (params :: instances) locks
      (⟨lock, params.perInstanceName⟩ :: descs) next := by
  have isHeld := Held.of_acquired isAcquired
  constructor
  · exact reached.trans rest.reached
  · exact List.Subset.trans isAcquired.subset rest.subset
  · apply List.Forall₂.cons
    · refine ⟨rfl, ?_, ?_, isHeld.mono rest.subset⟩
      · intro wanted isWanted
        rw [isNone] at isWanted
        cases isWanted
      · intro _
        exact found.extend .refl rest.reached
    · exact rest.allocated.imp fun _ _ allocated => allocated.extend reached
  · intro desc member
    rcases List.mem_cons.mp member with same | inRest
    · rw [same]
      exact .inr isAcquired.free
    · apply (rest.origin desc inRest).imp_right
      intro free holds
      exact free (holds_mono isAcquired.subset holds)
  · apply List.Pairwise.cons ?_ rest.distinct
    intro desc member
    rcases rest.origin desc member with isRequested | free
    · exact ((held desc.lockFile isRequested).ne_of_free isAcquired.free).symm
    · exact isHeld.ne_of_free free

theorem describe_spec {rounds : Nat} {locks : List InstanceLockFile}
    {descs : List InternalInstanceDesc} (linked : world.Linked)
    (ids : locks.map InstanceLockFile.instanceNum = instances.filterMap InstanceParams.instanceId)
    (held : ∀ lock ∈ locks, Held instanceLocksPath world lock)
    (distinct : locks.Pairwise fun first second => first.instanceNum ≠ second.instanceNum)
    (described : describe instanceLocksPath moments rounds instances locks world =
      some (descs, next)) :
    Described instanceLocksPath moments world instances locks descs next := by
  induction instances generalizing world locks descs with
  | nil =>
      cases described
      exact ⟨.refl, List.Subset.refl _, .nil, by simp, .nil⟩
  | cons params instances induction =>
      unfold describe at described
      cases isId : params.instanceId with
      | some id =>
          rw [isId] at described
          rw [List.filterMap_cons, isId] at ids
          cases locks with
          | nil => cases described
          | cons lock locks =>
              dsimp only at described
              rw [List.map_cons, List.cons.injEq] at ids
              rw [List.pairwise_cons] at distinct
              have isHeld := held lock List.mem_cons_self
              cases later : describe instanceLocksPath moments rounds instances locks world with
              | none =>
                  rw [later] at described
                  cases described
              | some result =>
                  rcases result with ⟨laterDescs, last⟩
                  rw [later] at described
                  cases described
                  have rest := induction linked ids.2
                    (fun lock member => held lock (List.mem_cons_of_mem _ member)) distinct.2 later
                  exact rest.requested (isId.trans (congrArg some ids.1.symm)) isHeld distinct.1
      | none =>
          rw [isId] at described
          rw [List.filterMap_cons, isId] at ids
          dsimp only at described
          cases acquired : acquireUnusedLock instanceLocksPath moments rounds 1 world with
          | none =>
              rw [acquired] at described
              cases described
          | some result =>
              rcases result with ⟨lock, after⟩
              rw [acquired] at described
              dsimp only at described
              rcases acquireUnusedLock_spec linked acquired with ⟨isAcquired, found, reached⟩
              cases later : describe instanceLocksPath moments rounds instances locks after with
              | none =>
                  rw [later] at described
                  cases described
              | some result =>
                  rcases result with ⟨laterDescs, last⟩
                  rw [later] at described
                  cases described
                  have rest := induction isAcquired.linked ids
                    (fun lock member => (held lock member).mono isAcquired.subset) distinct later
                  exact rest.acquired isId isAcquired found reached held

end

/-- The instances get ids in their order, the requested ones and others that were not in
use, and no id twice. -/
theorem allocateAndLockInstanceIds_spec {rounds : Nat} {instances : List InstanceParams}
    {files : LockFiles} {descs : List InternalInstanceDesc} {final : LockWorld}
    (allocated : allocateAndLockInstanceIds instanceLocksPath moments rounds instances
      (LockWorld.initial files) = some (descs, final)) :
    descs.length = instances.length ∧
      List.Forall₂ (fun params desc =>
        Allocated instanceLocksPath moments (LockWorld.initial files) params desc final)
        instances descs ∧
      (descs.map fun desc => desc.lockFile.instanceNum).Nodup := by
  have linked : (LockWorld.initial files).Linked := by
    intro file member
    cases member
  rw [allocateAndLockInstanceIds] at allocated
  cases locked : lockRequested instanceLocksPath moments instances [] (LockWorld.initial files) with
  | none =>
      rw [locked] at allocated
      cases allocated
  | some result =>
      rcases result with ⟨locks, world⟩
      rw [locked] at allocated
      have requested := lockRequested_spec linked locked
      have described := describe_spec requested.linked requested.ids requested.held
        requested.distinct allocated
      have whole := described.allocated.imp fun _ _ allocated => allocated.extend requested.reached
      exact ⟨whole.length_eq.symm, whole, List.pairwise_map.mpr described.distinct⟩

/-- The lock files of two instances, the first of which is in use. -/
def sampleFiles : LockFiles where
  inode path :=
    if path = lockFilePath "/tmp/" 1 then some 0
    else if path = lockFilePath "/tmp/" 2 then some 1
    else none
  nextInode := 2
  lockedByOthers _ := false
  content inode := if inode = 0 then ['I'] else ['N']

def sampleInstances : List InstanceParams :=
  [⟨none, some "first"⟩, ⟨some 2, none⟩, ⟨none, none⟩]

def sampleMoment (moment : Nat) : Moment where
  files := { sampleFiles with
    inode := fun path => if path = lockFilePath "/tmp/" 3 then some 2 else sampleFiles.inode path
    nextInode := 3 + moment
    lockedByOthers := fun inode => inode = 2 }
  succeeds := true

theorem allocateAndLockInstanceIds_spec_three : ∃ descs final,
    allocateAndLockInstanceIds "/tmp/" sampleMoment 6 sampleInstances
      (LockWorld.initial sampleFiles) = some (descs, final) ∧
    (descs.map fun desc => (desc.lockFile.instanceNum, desc.name)) =
      [(4, some "first"), (2, none), (5, none)] ∧
    descs.length = 3 ∧
    List.Forall₂ (fun params desc =>
      Allocated "/tmp/" sampleMoment (LockWorld.initial sampleFiles) params desc final)
      sampleInstances descs ∧
    (descs.map fun desc => desc.lockFile.instanceNum).Nodup := by
  have result : (allocateAndLockInstanceIds "/tmp/" sampleMoment 6 sampleInstances
      (LockWorld.initial sampleFiles)).map (fun result =>
        result.1.map fun desc => (desc.lockFile.instanceNum, desc.name)) =
      some [(4, some "first"), (2, none), (5, none)] := by
    decide +kernel
  rcases Option.map_eq_some_iff.mp result with ⟨pair, isResult, ids⟩
  exact ⟨pair.1, pair.2, isResult, ids, allocateAndLockInstanceIds_spec _ _ isResult⟩

end InstanceManager

end Cuttlefish.Instances
