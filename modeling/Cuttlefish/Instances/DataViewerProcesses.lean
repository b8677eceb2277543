import Cuttlefish.Foundation.Run
import Cuttlefish.Instances.DataViewer
import Cuttlefish.Instances.InstanceDatabase

/-! # Processes sharing a backing file

Any number of processes that each run one `WithSharedLock` or
`WithExclusiveLock` call on the same backing file, one system call at a time.
A process that makes several calls is several processes here: each call opens
the file again. -/

namespace Cuttlefish.Instances.DataViewer

open Fs

inductive LockMode
  | shared
  | exclusive
  deriving DecidableEq, Repr

/-- A call with its task. -/
inductive Call (Data R : Type)
  | withSharedLock (task : Data → Result R)
  | withExclusiveLock (task : Data → Result (R × Data))

namespace Call

variable {Data R : Type}

def isShared : Call Data R → Bool
  | withSharedLock _ => true
  | withExclusiveLock _ => false

def lockOp : Call Data R → LockMode
  | withSharedLock _ => .shared
  | withExclusiveLock _ => .shared

end Call

inductive Phase (Data R : Type)
  | start
  | opened
  | reading (str : Bytes)
  | loaded (data : Data)
  | modified (res : R) (data : Data)
  | truncated (res : R) (data : Data)
  | rewound (res : R) (data : Data)
  | writing (res : R) (str : Bytes) (total : Nat)
  | returning (res : Result R)
  | closed (res : Result R)

namespace Phase

variable {Data R : Type}

def Holding : Phase Data R → Prop
  | start => False
  | opened => False
  | closed _ => False
  | _ => True

def Storing : Phase Data R → Prop
  | truncated _ _ => True
  | rewound _ _ => True
  | writing _ _ _ => True
  | _ => False

def Finished : Phase Data R → Prop
  | returning (.ok _) => True
  | closed (.ok _) => True
  | _ => False

end Phase

structure Proc (Data R : Type) where
  phase : Phase Data R
  position : Nat
  seen : Option Data

/-- The file, the locks on it and the processes. -/
structure System (Pid Data R : Type) where
  file : Bytes
  locks : List (Pid × LockMode)
  procs : Pid → Proc Data R

/-- One system call or computation of a process. The counts are what the kernel
transfers. -/
inductive Op
  | open_
  | flock
  | read (count : Nat)
  | task
  | truncate
  | lseek
  | serialize
  | write (count : Nat)
  | close
  deriving DecidableEq, Repr

section Steps

variable {Pid Data R : Type} [DecidableEq Pid]
variable (codec : MessageCodec Data) (calls : Pid → Call Data R)

def System.initial (content : Bytes) : System Pid Data R where
  file := content
  locks := []
  procs := fun _ => ⟨.start, 0, none⟩

def flockGranted (locks : List (Pid × LockMode)) (mode : LockMode) : Bool :=
  locks.all fun lock => mode == .shared && lock.2 == .shared

/-- The steps between locking and closing: the process and the file afterwards.
`ReadAll` ends at the first empty read; a short `WriteAll` or a failed
serialization is no step. -/
def work (call : Call Data R) (proc : Proc Data R) (file : Bytes) :
    Op → Option (Proc Data R × Bytes)
  | .read count =>
      match proc.phase with
      | .reading str =>
          let chunk := file.readAt proc.position (readCount count)
          if chunk = [] then
            some ({ proc with phase := .loaded (codec.parseFromString str).2 }, file)
          else
            some ({ proc with phase := .reading (str ++ chunk),
                              position := proc.position + chunk.length }, file)
      | _ => none
  | .task =>
      match proc.phase with
      | .loaded data =>
          let proc := { proc with seen := some data }
          match call with
          | .withSharedLock task => some ({ proc with phase := .returning (task data) }, file)
          | .withExclusiveLock task =>
              match task data with
              | .error failure => some ({ proc with phase := .returning (.error failure) }, file)
              | .ok (res, data) => some ({ proc with phase := .modified res data }, file)
      | _ => none
  | .truncate =>
      match proc.phase with
      | .modified res data => some ({ proc with phase := .truncated res data }, [])
      | _ => none
  | .lseek =>
      match proc.phase with
      | .truncated res data =>
          some ({ proc with phase := .rewound res data, position := 0 }, file)
      | _ => none
  | .serialize =>
      match proc.phase with
      | .rewound res data =>
          match codec.serializeToString data with
          | none => none
          | some str => some ({ proc with phase := .writing res str 0 }, file)
      | _ => none
  | .write count =>
      match proc.phase with
      | .writing res str total =>
          let data := (str.drop total).take count
          let file := file.writeAt proc.position data
          let position := proc.position + data.length
          if total + data.length = str.length then
            some ({ proc with phase := .returning (.ok res), position }, file)
          else if data = [] then none
          else
            some ({ proc with phase := .writing res str (total + data.length), position }, file)
      | _ => none
  | _ => none

def System.setProc (state : System Pid Data R) (pid : Pid) (proc : Proc Data R) :
    System Pid Data R :=
  { state with procs := fun other => if other = pid then proc else state.procs other }

def System.step (state : System Pid Data R) : Pid × Op → Option (System Pid Data R)
  | (pid, .open_) =>
      match (state.procs pid).phase with
      | .start =>
          some (state.setProc pid { state.procs pid with phase := .opened, position := 0 })
      | _ => none
  | (pid, .flock) =>
      match (state.procs pid).phase with
      | .opened =>
          if flockGranted state.locks (calls pid).lockOp then
            some { state.setProc pid { state.procs pid with phase := .reading [] } with
              locks := (pid, (calls pid).lockOp) :: state.locks }
          else none
      | _ => none
  | (pid, .close) =>
      match (state.procs pid).phase with
      | .returning res =>
          some { state.setProc pid { state.procs pid with phase := .closed res } with
            locks := state.locks.filter fun lock => lock.1 ≠ pid }
      | _ => none
  | (pid, op) =>
      match work codec (calls pid) (state.procs pid) state.file op with
      | some (proc, file) => some { state.setProc pid proc with file }
      | none => none

def commit (content : Bytes) (pid : Pid) : Option Bytes :=
  match calls pid with
  | .withSharedLock _ => none
  | .withExclusiveLock task =>
      match withExclusiveLock codec .faultless task content with
      | (.ok _, content) => some content
      | (.error _, _) => none

def replay (content : Bytes) (order : List Pid) : Option Bytes :=
  order.foldlM (commit codec calls) content

def Stored (state : System Pid Data R) (pid : Pid) : Prop :=
  (calls pid).isShared = false ∧ (state.procs pid).phase.Finished

/-- The calls have taken effect one after another: those that have stored their
data can be put in an order that yields the file, unless another one is being
stored, and every task was given the content after a prefix of that order. -/
def Serial (content : Bytes) (state : System Pid Data R) : Prop :=
  ∃ order : List Pid, order.Nodup ∧ (∀ pid, pid ∈ order ↔ Stored calls state pid) ∧
    ((∀ pid, ¬ (state.procs pid).phase.Storing) →
      replay codec calls content order = some state.file) ∧
    ∀ pid data, (state.procs pid).seen = some data →
      ∃ before reached, before <+: order ∧ replay codec calls content before = some reached ∧
        data = (codec.parseFromString reached).2

/-- A call gets its lock only while no other call holds one, unless all of them
are shared calls. -/
def Alone (state : System Pid Data R) : Pid × Op → Prop
  | (pid, .flock) =>
      ∀ lock ∈ state.locks, (calls pid).isShared = true ∧ (calls lock.1).isShared = true
  | _ => True

end Steps

/-! ## What a call knows about the file -/

section Knowledge

variable {Pid Data R : Type} {codec : MessageCodec Data} {calls : Pid → Call Data R}
variable {pid : Pid} {order : List Pid} {content : Bytes}

theorem commit_eq_some {task : Data → Result (R × Data)} {res : R} {data : Data}
    {str : Bytes} (call : calls pid = .withExclusiveLock task)
    (ran : task (codec.parseFromString content).2 = .ok (res, data))
    (serialized : codec.serializeToString data = some str) :
    commit codec calls content pid = some str := by
  simp [commit, call, withExclusiveLock_faultless, ran, serialized]

theorem replay_concat {reached last : Bytes}
    (before : replay codec calls content order = some reached)
    (after : commit codec calls reached pid = some last) :
    replay codec calls content (order ++ [pid]) = some last := by
  rw [replay] at before ⊢
  simp [List.foldlM_append, before, after]

/-- The exclusive call `call` ran its task on the stored content. -/
def Ran (codec : MessageCodec Data) (content : Bytes) (call : Call Data R) (res : R)
    (data : Data) : Prop :=
  ∃ task, call = .withExclusiveLock task ∧
    task (codec.parseFromString content).2 = .ok (res, data)

/-- What the phase of a call says about the file and about the content that the
stored calls have produced. -/
def Agrees (codec : MessageCodec Data) (content file : Bytes) (call : Call Data R)
    (proc : Proc Data R) : Prop :=
  match proc.phase with
  | .opened => proc.position = 0
  | .reading str => file = content ∧ str = content.take proc.position
  | .loaded data => file = content ∧ data = (codec.parseFromString content).2
  | .modified res data => file = content ∧ Ran codec content call res data
  | .truncated res data => file = [] ∧ Ran codec content call res data
  | .rewound res data => file = [] ∧ proc.position = 0 ∧ Ran codec content call res data
  | .writing res str total =>
      file = str.take total ∧ proc.position = total ∧ total ≤ str.length ∧
        ∃ data, Ran codec content call res data ∧ codec.serializeToString data = some str
  | _ => True

theorem Agrees.of_not_holding {call : Call Data R} {proc : Proc Data R}
    {file later laterFile : Bytes} (agrees : Agrees codec content file call proc)
    (free : ¬ proc.phase.Holding) : Agrees codec later laterFile call proc := by
  rw [Agrees] at agrees ⊢
  cases phase : proc.phase <;> simp_all [Phase.Holding]

inductive WorkEffect (codec : MessageCodec Data) (content file : Bytes) (call : Call Data R)
    (proc after : Proc Data R) (fileAfter : Bytes) : Prop
  | quiet (sameFile : fileAfter = file) (agrees : Agrees codec content file call after)
      (storing : after.phase.Storing ↔ proc.phase.Storing)
      (finished : call.isShared = false → ¬ after.phase.Finished)
      (settled : after.seen = proc.seen ∨ after.seen = some (codec.parseFromString content).2)
  | store (exclusive : call.isShared = false)
      (agrees : Agrees codec content fileAfter call after) (storing : after.phase.Storing)
      (finished : ¬ after.phase.Finished) (seen : after.seen = proc.seen)
  | complete (exclusive : call.isShared = false) (res : R) (data : Data)
      (phase : after.phase = .returning (.ok res)) (ran : Ran codec content call res data)
      (serialized : codec.serializeToString data = some fileAfter)
      (seen : after.seen = proc.seen)

theorem Ran.exclusive {call : Call Data R} {res : R} {data : Data}
    (ran : Ran codec content call res data) : call.isShared = false := by
  rcases ran with ⟨task, rfl, -⟩
  rfl

private theorem take_writeAt {str : Bytes} {total count : Nat} (bound : total ≤ str.length) :
    Bytes.writeAt (str.take total) total ((str.drop total).take count) =
      str.take (total + ((str.drop total).take count).length) := by
  have position : (str.take total).length = total := by simp [bound]
  have written := Bytes.writeAt_end (str.take total) ((str.drop total).take count)
  rw [position] at written
  rw [written, ← List.take_add]
  exact List.take_eq_take_iff.mpr (by simp; omega)

section WorkSteps

variable {call : Call Data R} {proc after : Proc Data R} {file fileAfter : Bytes}

private theorem work_read {count : Nat} (agrees : Agrees codec content file call proc)
    (worked : work codec call proc file (.read count) = some (after, fileAfter)) :
    proc.phase.Holding ∧ ¬ proc.phase.Finished ∧ after.phase.Holding ∧
      WorkEffect codec content file call proc after fileAfter := by
  simp only [work] at worked
  split at worked
  · rename_i str phase
    simp only [Agrees, phase] at agrees
    rcases agrees with ⟨rfl, soFar⟩
    simp only [phase, Phase.Holding, Phase.Finished, not_false_iff, true_and]
    split at worked
    · rename_i atEnd
      cases worked
      have whole : str = file := by
        rw [soFar, List.take_of_length_le]
        exact (Bytes.readAt_eq_nil_iff file proc.position _ (readCount_pos count)).mp atEnd
      refine ⟨trivial, .quiet rfl ?_ ?_ ?_ (.inl rfl)⟩
      · simp [Agrees, whole]
      · simp [Phase.Storing, phase]
      · simp [Phase.Finished]
    · cases worked
      refine ⟨trivial, .quiet rfl ?_ ?_ ?_ (.inl rfl)⟩
      · simp only [Agrees, true_and]
        rw [soFar, Bytes.take_append_readAt, Bytes.readAt_length]
        exact List.take_eq_take_iff.mpr (by omega)
      · simp [Phase.Storing, phase]
      · simp [Phase.Finished]
  · cases worked

private theorem work_task (agrees : Agrees codec content file call proc)
    (worked : work codec call proc file .task = some (after, fileAfter)) :
    proc.phase.Holding ∧ ¬ proc.phase.Finished ∧ after.phase.Holding ∧
      WorkEffect codec content file call proc after fileAfter := by
  simp only [work] at worked
  split at worked
  · rename_i data phase
    simp only [Agrees, phase] at agrees
    rcases agrees with ⟨rfl, dataEq⟩
    simp only [phase, Phase.Holding, Phase.Finished, not_false_iff, true_and]
    cases call with
    | withSharedLock task =>
        cases worked
        refine ⟨trivial, .quiet rfl trivial ?_ ?_ (.inr ?_)⟩
        · simp [Phase.Storing, phase]
        · simp [Call.isShared]
        · simp [dataEq]
    | withExclusiveLock task =>
        cases ran : task data with
        | error failure =>
            simp only [ran, Option.some.injEq, Prod.mk.injEq] at worked
            rcases worked with ⟨rfl, rfl⟩
            refine ⟨trivial, .quiet rfl trivial ?_ ?_ (.inr ?_)⟩
            · simp [Phase.Storing, phase]
            · simp [Phase.Finished]
            · simp [dataEq]
        | ok result =>
            rcases result with ⟨res, modified⟩
            simp only [ran, Option.some.injEq, Prod.mk.injEq] at worked
            rcases worked with ⟨rfl, rfl⟩
            refine ⟨trivial, .quiet rfl ?_ ?_ ?_ (.inr ?_)⟩
            · exact ⟨rfl, task, rfl, dataEq ▸ ran⟩
            · simp [Phase.Storing, phase]
            · simp [Phase.Finished]
            · simp [dataEq]
  · cases worked

private theorem work_write {count : Nat} (agrees : Agrees codec content file call proc)
    (worked : work codec call proc file (.write count) = some (after, fileAfter)) :
    proc.phase.Holding ∧ ¬ proc.phase.Finished ∧ after.phase.Holding ∧
      WorkEffect codec content file call proc after fileAfter := by
  simp only [work] at worked
  split at worked
  · rename_i res str total phase
    simp only [Agrees, phase] at agrees
    rcases agrees with ⟨written, position, bound, data, ran, serialized⟩
    have extended := @take_writeAt str total count bound
    rw [← written, ← position] at extended
    simp only [phase, Phase.Holding, Phase.Finished, not_false_iff, true_and]
    simp only [position] at worked extended
    split at worked
    · rename_i complete
      cases worked
      refine ⟨trivial, .complete ran.exclusive res data rfl ran ?_ rfl⟩
      rw [extended, complete, List.take_length, serialized]
    · split at worked
      · cases worked
      · cases worked
        refine ⟨trivial, .store ran.exclusive
          ⟨extended, rfl, ?_, data, ran, serialized⟩ trivial (by simp [Phase.Finished]) rfl⟩
        simp
        omega
  · cases worked

theorem work_effect {op : Op} (agrees : Agrees codec content file call proc)
    (worked : work codec call proc file op = some (after, fileAfter)) :
    proc.phase.Holding ∧ ¬ proc.phase.Finished ∧ after.phase.Holding ∧
      WorkEffect codec content file call proc after fileAfter := by
  cases op with
  | open_ => simp [work] at worked
  | flock => simp [work] at worked
  | close => simp [work] at worked
  | read count => exact work_read agrees worked
  | task => exact work_task agrees worked
  | truncate =>
      simp only [work] at worked
      split at worked
      · rename_i res data phase
        simp only [Agrees, phase] at agrees
        cases worked
        simp only [phase, Phase.Holding, Phase.Finished, not_false_iff, true_and]
        exact .store agrees.2.exclusive ⟨rfl, agrees.2⟩ trivial (by simp [Phase.Finished]) rfl
      · cases worked
  | lseek =>
      simp only [work] at worked
      split at worked
      · rename_i res data phase
        simp only [Agrees, phase] at agrees
        cases worked
        simp only [phase, Phase.Holding, Phase.Finished, not_false_iff, true_and]
        exact .store agrees.2.exclusive ⟨agrees.1, rfl, agrees.2⟩ trivial
          (by simp [Phase.Finished]) rfl
      · cases worked
  | serialize =>
      simp only [work] at worked
      split at worked
      · rename_i res data phase
        simp only [Agrees, phase] at agrees
        rcases agrees with ⟨empty, position, ran⟩
        simp only [phase, Phase.Holding, Phase.Finished, not_false_iff, true_and]
        split at worked
        · cases worked
        · rename_i str serialized
          cases worked
          exact ⟨trivial, .store ran.exclusive
            ⟨by simp [empty], position, Nat.zero_le _, data, ran, serialized⟩ trivial
            (by simp [Phase.Finished]) rfl⟩
      · cases worked
  | write count => exact work_write agrees worked

end WorkSteps

end Knowledge

/-! ## Runs in which exclusive calls are alone -/

section Runs

variable {Pid Data R : Type} {codec : MessageCodec Data} {calls : Pid → Call Data R}
variable {state next : System Pid Data R} {pid : Pid} {order : List Pid}
variable {initial content : Bytes}

/-- The calls that have stored their data, in the order they finished, account
for the stored content; the other processes agree with it. -/
structure Consistent (codec : MessageCodec Data) (calls : Pid → Call Data R)
    (initial : Bytes) (state : System Pid Data R) (order : List Pid) (content : Bytes) :
    Prop where
  nodup : order.Nodup
  replayed : replay codec calls initial order = some content
  stored : ∀ pid, pid ∈ order ↔ Stored calls state pid
  locks : ∀ pid, pid ∈ state.locks.map Prod.fst ↔ (state.procs pid).phase.Holding
  alone : ∀ pid other, pid ≠ other → (state.procs pid).phase.Holding →
    (state.procs other).phase.Holding → (calls pid).isShared = true
  agrees : ∀ pid, Agrees codec content state.file (calls pid) (state.procs pid)
  seen : ∀ pid data, (state.procs pid).seen = some data →
    ∃ before reached, before <+: order ∧ replay codec calls initial before = some reached ∧
      data = (codec.parseFromString reached).2
  settled : (∀ pid, ¬ (state.procs pid).phase.Storing) → state.file = content

theorem Consistent.serial (consistent : Consistent codec calls initial state order content) :
    Serial codec calls initial state := by
  refine ⟨order, consistent.nodup, consistent.stored, ?_, consistent.seen⟩
  intro quiet
  rw [consistent.settled quiet]
  exact consistent.replayed

theorem consistent_initial :
    Consistent codec calls initial (System.initial initial) [] initial where
  nodup := List.nodup_nil
  replayed := rfl
  stored pid := by simp [Stored, System.initial, Phase.Finished]
  locks pid := by simp [System.initial, Phase.Holding]
  alone pid other _ holding := by simp [System.initial, Phase.Holding] at holding
  agrees pid := trivial
  seen pid data seen := by simp [System.initial] at seen
  settled _ := rfl

theorem Consistent.others_free
    (consistent : Consistent codec calls initial state order content)
    (exclusive : (calls pid).isShared = false) (holding : (state.procs pid).phase.Holding)
    {other : Pid} (different : other ≠ pid) : ¬ (state.procs other).phase.Holding := by
  intro otherHolding
  have shared := consistent.alone pid other different.symm holding otherHolding
  simp [exclusive] at shared

theorem Phase.Storing.holding {phase : Phase Data R} (storing : phase.Storing) :
    phase.Holding := by
  cases phase <;> simp_all [Phase.Storing, Phase.Holding]

theorem Consistent.storing_exclusive
    (consistent : Consistent codec calls initial state order content)
    (storing : (state.procs pid).phase.Storing) : (calls pid).isShared = false := by
  have agrees := consistent.agrees pid
  rw [Agrees] at agrees
  cases phase : (state.procs pid).phase with
  | truncated res data =>
      simp only [phase] at agrees
      exact agrees.2.exclusive
  | rewound res data =>
      simp only [phase] at agrees
      exact agrees.2.2.exclusive
  | writing res str total =>
      simp only [phase] at agrees
      rcases agrees with ⟨-, -, -, data, ran, -⟩
      exact ran.exclusive
  | _ => simp [phase, Phase.Storing] at storing

instance Alone.decidable (calls : Pid → Call Data R) (state : System Pid Data R) :
    ∀ label, Decidable (Alone calls state label)
  | (_, .flock) => inferInstanceAs (Decidable (∀ _ ∈ _, _ ∧ _))
  | (_, .open_) => isTrue trivial
  | (_, .read _) => isTrue trivial
  | (_, .task) => isTrue trivial
  | (_, .truncate) => isTrue trivial
  | (_, .lseek) => isTrue trivial
  | (_, .serialize) => isTrue trivial
  | (_, .write _) => isTrue trivial
  | (_, .close) => isTrue trivial

variable [DecidableEq Pid]

@[simp] theorem System.setProc_procs_self (state : System Pid Data R) (pid : Pid)
    (proc : Proc Data R) : (state.setProc pid proc).procs pid = proc := by
  simp [setProc]

theorem System.setProc_procs_of_ne (state : System Pid Data R) {pid other : Pid}
    (different : other ≠ pid) (proc : Proc Data R) :
    (state.setProc pid proc).procs other = state.procs other := by
  simp [setProc, different]

theorem System.setProc_rule (state : System Pid Data R) (Holds : Pid → Proc Data R → Prop)
    {after : Proc Data R} (self : Holds pid after)
    (others : ∀ other, other ≠ pid → Holds other (state.procs other)) (other : Pid) :
    Holds other ((state.setProc pid after).procs other) := by
  by_cases same : other = pid
  · rw [same, System.setProc_procs_self]
    exact self
  · rw [state.setProc_procs_of_ne same]
    exact others other same

theorem Consistent.rephase
    (consistent : Consistent codec calls initial state order content) {after : Proc Data R}
    {locks : List (Pid × LockMode)}
    (holding : ∀ other, other ∈ locks.map Prod.fst ↔
      ((state.setProc pid after).procs other).phase.Holding)
    (alone : ∀ first second, first ≠ second →
      ((state.setProc pid after).procs first).phase.Holding →
      ((state.setProc pid after).procs second).phase.Holding → (calls first).isShared = true)
    (agrees : Agrees codec content state.file (calls pid) after)
    (storing : after.phase.Storing ↔ (state.procs pid).phase.Storing)
    (finished : (calls pid).isShared = false →
      (after.phase.Finished ↔ (state.procs pid).phase.Finished))
    (seen : after.seen = (state.procs pid).seen ∨
      after.seen = some (codec.parseFromString content).2) :
    Consistent codec calls initial { state.setProc pid after with locks } order content where
  nodup := consistent.nodup
  replayed := consistent.replayed
  stored := by
    apply state.setProc_rule fun other proc =>
      other ∈ order ↔ (calls other).isShared = false ∧ proc.phase.Finished
    · rw [consistent.stored pid]
      exact and_congr_right fun exclusive => (finished exclusive).symm
    · exact fun other _ => consistent.stored other
  locks := holding
  alone := alone
  agrees := by
    apply state.setProc_rule fun other proc => Agrees codec content state.file (calls other) proc
    · exact agrees
    · exact fun other _ => consistent.agrees other
  seen := by
    apply state.setProc_rule fun _ proc => ∀ data, proc.seen = some data →
      ∃ before reached, before <+: order ∧ replay codec calls initial before = some reached ∧
        data = (codec.parseFromString reached).2
    · intro data given
      rcases seen with old | new
      · exact consistent.seen pid data (old ▸ given)
      · refine ⟨order, content, List.prefix_rfl, consistent.replayed, ?_⟩
        rw [new] at given
        exact (Option.some.inj given).symm
    · exact fun other _ => consistent.seen other
  settled idle := by
    apply consistent.settled
    intro other stores
    apply idle other
    by_cases same : other = pid
    · rw [same] at stores ⊢
      rw [state.setProc_procs_self]
      exact storing.mpr stores
    · rw [state.setProc_procs_of_ne same]
      exact stores

section Work

variable {after : Proc Data R} {fileAfter : Bytes}

private theorem Consistent.locks_of_holding
    (consistent : Consistent codec calls initial state order content)
    (holding : (state.procs pid).phase.Holding) (holdingAfter : after.phase.Holding) :
    (∀ other, other ∈ state.locks.map Prod.fst ↔
      ((state.setProc pid after).procs other).phase.Holding) ∧
    ∀ first second, first ≠ second →
      ((state.setProc pid after).procs first).phase.Holding →
      ((state.setProc pid after).procs second).phase.Holding →
      (calls first).isShared = true := by
  have holdingIff := state.setProc_rule
    (fun other proc => proc.phase.Holding ↔ (state.procs other).phase.Holding)
    (iff_of_true holdingAfter holding) (fun _ _ => Iff.rfl)
  refine ⟨fun other => (consistent.locks other).trans (holdingIff other).symm, ?_⟩
  intro first second different firstHolds secondHolds
  exact consistent.alone first second different ((holdingIff first).mp firstHolds)
    ((holdingIff second).mp secondHolds)

private theorem Consistent.seen_setProc
    (consistent : Consistent codec calls initial state order content)
    (seen : after.seen = (state.procs pid).seen) :
    ∀ other data, ((state.setProc pid after).procs other).seen = some data →
      ∃ before reached, before <+: order ∧ replay codec calls initial before = some reached ∧
        data = (codec.parseFromString reached).2 := by
  apply state.setProc_rule fun _ proc => ∀ data, proc.seen = some data →
    ∃ before reached, before <+: order ∧ replay codec calls initial before = some reached ∧
      data = (codec.parseFromString reached).2
  · intro data given
    exact consistent.seen pid data (seen ▸ given)
  · exact fun other _ => consistent.seen other

private theorem Consistent.store
    (consistent : Consistent codec calls initial state order content)
    (holding : (state.procs pid).phase.Holding)
    (unfinished : ¬ (state.procs pid).phase.Finished) (holdingAfter : after.phase.Holding)
    (exclusive : (calls pid).isShared = false)
    (agrees : Agrees codec content fileAfter (calls pid) after)
    (storing : after.phase.Storing) (finished : ¬ after.phase.Finished)
    (seen : after.seen = (state.procs pid).seen) :
    Consistent codec calls initial { state.setProc pid after with file := fileAfter } order
      content where
  nodup := consistent.nodup
  replayed := consistent.replayed
  stored := by
    apply state.setProc_rule fun other proc =>
      other ∈ order ↔ (calls other).isShared = false ∧ proc.phase.Finished
    · rw [consistent.stored pid]
      exact iff_of_false (fun stored => unfinished stored.2) fun stored => finished stored.2
    · exact fun other _ => consistent.stored other
  locks := (consistent.locks_of_holding holding holdingAfter).1
  alone := (consistent.locks_of_holding holding holdingAfter).2
  agrees := by
    apply state.setProc_rule fun other proc => Agrees codec content fileAfter (calls other) proc
    · exact agrees
    · intro other different
      exact (consistent.agrees other).of_not_holding
        (consistent.others_free exclusive holding different)
  seen := consistent.seen_setProc seen
  settled idle := by
    have idleSelf := idle pid
    rw [state.setProc_procs_self] at idleSelf
    exact absurd storing idleSelf

private theorem Consistent.complete
    (consistent : Consistent codec calls initial state order content)
    (holding : (state.procs pid).phase.Holding)
    (unfinished : ¬ (state.procs pid).phase.Finished) (holdingAfter : after.phase.Holding)
    (exclusive : (calls pid).isShared = false) {res : R} {data : Data}
    (phase : after.phase = .returning (.ok res)) (ran : Ran codec content (calls pid) res data)
    (serialized : codec.serializeToString data = some fileAfter)
    (seen : after.seen = (state.procs pid).seen) :
    Consistent codec calls initial { state.setProc pid after with file := fileAfter }
      (order ++ [pid]) fileAfter where
  nodup := by
    apply List.nodup_append.mpr ⟨consistent.nodup, by simp, ?_⟩
    intro member inOrder last isLast equal
    rw [List.mem_singleton.mp isLast] at equal
    exact unfinished ((consistent.stored pid).mp (equal ▸ inOrder)).2
  replayed := by
    rcases ran with ⟨task, call, ranOk⟩
    exact replay_concat consistent.replayed (commit_eq_some call ranOk serialized)
  stored := by
    apply state.setProc_rule fun other proc =>
      other ∈ order ++ [pid] ↔ (calls other).isShared = false ∧ proc.phase.Finished
    · have finished : after.phase.Finished := phase ▸ trivial
      exact iff_of_true (by simp) ⟨exclusive, finished⟩
    · intro other different
      rw [List.mem_append, List.mem_singleton, consistent.stored]
      simp only [Stored, different, or_false]
  locks := (consistent.locks_of_holding holding holdingAfter).1
  alone := (consistent.locks_of_holding holding holdingAfter).2
  agrees := by
    apply state.setProc_rule fun other proc => Agrees codec fileAfter fileAfter (calls other) proc
    · simp [Agrees, phase]
    · intro other different
      exact (consistent.agrees other).of_not_holding
        (consistent.others_free exclusive holding different)
  seen other data given := by
    rcases consistent.seen_setProc seen other data given with ⟨front, reached, sub, rest⟩
    exact ⟨front, reached, sub.trans (List.prefix_append _ _), rest⟩
  settled _ := rfl

theorem Consistent.work
    (consistent : Consistent codec calls initial state order content) {op : Op}
    (worked : work codec (calls pid) (state.procs pid) state.file op = some (after, fileAfter)) :
    ∃ order content, Consistent codec calls initial
      { state.setProc pid after with file := fileAfter } order content := by
  rcases work_effect (consistent.agrees pid) worked with
    ⟨holding, unfinished, holdingAfter, effect⟩
  cases effect with
  | quiet sameFile agrees storing finished seen =>
      have locks := consistent.locks_of_holding holding holdingAfter
      have finishedIff : (calls pid).isShared = false →
          (after.phase.Finished ↔ (state.procs pid).phase.Finished) :=
        fun exclusive => iff_of_false (finished exclusive) unfinished
      rw [sameFile]
      exact ⟨order, content, consistent.rephase locks.1 locks.2 agrees storing finishedIff seen⟩
  | store exclusive agrees storing finished seen =>
      exact ⟨order, content, consistent.store holding unfinished holdingAfter exclusive agrees
        storing finished seen⟩
  | complete exclusive res data phase ran serialized seen =>
      exact ⟨order ++ [pid], fileAfter, consistent.complete holding unfinished holdingAfter
        exclusive phase ran serialized seen⟩

end Work

theorem Consistent.open_
    (consistent : Consistent codec calls initial state order content)
    (phase : (state.procs pid).phase = .start) :
    Consistent codec calls initial
      (state.setProc pid { state.procs pid with phase := .opened, position := 0 }) order
        content := by
  have holdingIff : ∀ other, ((state.setProc pid
      { state.procs pid with phase := .opened, position := 0 }).procs other).phase.Holding ↔
        (state.procs other).phase.Holding := by
    intro other
    by_cases same : other = pid
    · subst same
      simp [phase, Phase.Holding]
    · rw [state.setProc_procs_of_ne same]
  refine consistent.rephase (fun other => ?_) ?_ rfl ?_ ?_ (.inl rfl)
  · exact (consistent.locks other).trans (holdingIff other).symm
  · intro first second different firstHolds secondHolds
    exact consistent.alone first second different ((holdingIff first).mp firstHolds)
      ((holdingIff second).mp secondHolds)
  · simp [phase, Phase.Storing]
  · simp [phase, Phase.Finished]

theorem Consistent.flock
    (consistent : Consistent codec calls initial state order content)
    (phase : (state.procs pid).phase = .opened) (mode : LockMode)
    (allowed : ∀ lock ∈ state.locks,
      (calls pid).isShared = true ∧ (calls lock.1).isShared = true) :
    Consistent codec calls initial
      { state.setProc pid { state.procs pid with phase := .reading [] } with
        locks := (pid, mode) :: state.locks } order content := by
  have holdersShared : ∀ other, (state.procs other).phase.Holding →
      (calls pid).isShared = true ∧ (calls other).isShared = true := by
    intro other holding
    rcases List.mem_map.mp ((consistent.locks other).mpr holding) with ⟨lock, member, rfl⟩
    exact allowed lock member
  have settled : state.file = content := by
    apply consistent.settled
    intro other storing
    have exclusive := consistent.storing_exclusive storing
    simp [(holdersShared other storing.holding).2] at exclusive
  have position : (state.procs pid).position = 0 := by
    have agrees := consistent.agrees pid
    simpa [Agrees, phase] using agrees
  refine consistent.rephase ?_ ?_ ⟨settled, by simp [position]⟩ ?_ ?_ (.inl rfl)
  · intro other
    by_cases same : other = pid
    · subst same
      simp [Phase.Holding]
    · rw [state.setProc_procs_of_ne same, ← consistent.locks other]
      simp [same]
  · intro first second different firstHolds secondHolds
    by_cases sameFirst : first = pid
    · subst sameFirst
      rw [state.setProc_procs_of_ne different.symm] at secondHolds
      exact (holdersShared second secondHolds).1
    · rw [state.setProc_procs_of_ne sameFirst] at firstHolds
      exact (holdersShared first firstHolds).2
  · simp [phase, Phase.Storing]
  · simp [phase, Phase.Finished]

theorem Consistent.close
    (consistent : Consistent codec calls initial state order content) {res : Result R}
    (phase : (state.procs pid).phase = .returning res) :
    Consistent codec calls initial
      { state.setProc pid { state.procs pid with phase := .closed res } with
        locks := state.locks.filter fun lock => lock.1 ≠ pid } order content := by
  refine consistent.rephase ?_ ?_ trivial ?_ ?_ (.inl rfl)
  · intro other
    by_cases same : other = pid
    · subst same
      simp [Phase.Holding]
    · rw [state.setProc_procs_of_ne same, ← consistent.locks other]
      simp only [List.mem_map, List.mem_filter, decide_eq_true_eq]
      constructor
      · intro parts
        rcases parts with ⟨lock, ⟨member, -⟩, holder⟩
        exact ⟨lock, member, holder⟩
      · intro parts
        rcases parts with ⟨lock, member, holder⟩
        exact ⟨lock, ⟨member, holder ▸ same⟩, holder⟩
  · intro first second different firstHolds secondHolds
    have firstOther : first ≠ pid := by
      intro same
      subst same
      simp [Phase.Holding] at firstHolds
    have secondOther : second ≠ pid := by
      intro same
      subst same
      simp [Phase.Holding] at secondHolds
    rw [state.setProc_procs_of_ne firstOther] at firstHolds
    rw [state.setProc_procs_of_ne secondOther] at secondHolds
    exact consistent.alone first second different firstHolds secondHolds
  · simp [phase, Phase.Storing]
  · intro _
    rw [phase]
    cases res <;> simp [Phase.Finished]

theorem Consistent.step
    (consistent : Consistent codec calls initial state order content) {label : Pid × Op}
    (allowed : Alone calls state label) (stepped : state.step codec calls label = some next) :
    ∃ order content, Consistent codec calls initial next order content := by
  rcases label with ⟨pid, op⟩
  have works : ∀ op, (match DataViewer.work codec (calls pid) (state.procs pid) state.file op with
      | some (proc, file) => some { state.setProc pid proc with file }
      | none => none) = some next →
      ∃ order content, Consistent codec calls initial next order content := by
    intro op stepped
    split at stepped
    · rename_i proc file worked
      cases stepped
      exact consistent.work worked
    · cases stepped
  cases op with
  | open_ =>
      simp only [System.step] at stepped
      split at stepped
      · rename_i phase
        cases stepped
        exact ⟨order, content, consistent.open_ phase⟩
      · cases stepped
  | flock =>
      simp only [System.step] at stepped
      split at stepped
      · rename_i phase
        split at stepped
        · cases stepped
          exact ⟨order, content, consistent.flock phase _ allowed⟩
        · cases stepped
      · cases stepped
  | close =>
      simp only [System.step] at stepped
      split at stepped
      · rename_i res phase
        cases stepped
        exact ⟨order, content, consistent.close phase⟩
      · cases stepped
  | read count => exact works (.read count) stepped
  | task => exact works .task stepped
  | truncate => exact works .truncate stepped
  | lseek => exact works .lseek stepped
  | serialize => exact works .serialize stepped
  | write count => exact works (.write count) stepped

/-- Whatever the interleaving, as long as no call gets its lock beside an
exclusive one, the calls take effect one after another. -/
theorem serial_of_alone (codec : MessageCodec Data) (calls : Pid → Call Data R)
    (initial : Bytes) (steps : List (Pid × Op))
    (alone : Run.Along (System.step codec calls) (Alone calls) (System.initial initial) steps) :
    Run.Always (System.step codec calls) (Serial codec calls initial)
      (System.initial initial) steps := by
  have preserved : ∀ (state : System Pid Data R) label next,
      (∃ order content, Consistent codec calls initial state order content) →
      Alone calls state label → state.step codec calls label = some next →
      ∃ order content, Consistent codec calls initial next order content := by
    intro state label next invariant allowed stepped
    rcases invariant with ⟨order, content, consistent⟩
    exact consistent.step allowed stepped
  have implies : ∀ state : System Pid Data R,
      (∃ order content, Consistent codec calls initial state order content) →
      Serial codec calls initial state := by
    intro state invariant
    rcases invariant with ⟨order, content, consistent⟩
    exact consistent.serial
  exact Run.always_of_along preserved implies ⟨[], initial, consistent_initial⟩ alone

end Runs

/-! ## Two processes that add a group each -/

def sampleCalls : Bool → Call PersistentData Unit := fun second =>
  .withExclusiveLock fun data =>
    (InstanceDatabase.addTask (if second then sampleGroupB else sampleGroupA) data).map
      fun result => ((), result.2)

def sampleSteps (pid : Bool) : List (Bool × Op) :=
  [.open_, .flock, .read 1, .task, .truncate, .lseek, .serialize, .write 18, .close].map
    fun op => (pid, op)

def sampleStepsInTurn : List (Bool × Op) :=
  sampleSteps false ++
    ([.open_, .flock, .read 18, .read 1, .task, .truncate, .lseek, .serialize, .write 36,
      .close] : List Op).map fun op => (true, op)

/-- Both processes read before either has written. -/
def sampleStepsOverlapping : List (Bool × Op) :=
  (sampleSteps false).take 4 ++ (sampleSteps true).take 4 ++ (sampleSteps false).drop 4 ++
    (sampleSteps true).drop 4

theorem serial_of_alone_two_adds :
    Run.Along (System.step sampleCodec sampleCalls) (Alone sampleCalls)
        (System.initial []) sampleStepsInTurn ∧
      Run.Always (System.step sampleCodec sampleCalls) (Serial sampleCodec sampleCalls [])
        (System.initial []) sampleStepsInTurn := by
  have alone : Run.Along (System.step sampleCodec sampleCalls) (Alone sampleCalls)
      (System.initial []) sampleStepsInTurn := by decide
  exact ⟨alone, serial_of_alone sampleCodec sampleCalls [] sampleStepsInTurn alone⟩

private theorem order_of_both {order : List Bool} (nodup : order.Nodup)
    (members : ∀ pid, pid ∈ order) : order = [false, true] ∨ order = [true, false] := by
  have firstMember := members false
  have secondMember := members true
  match order with
  | [] => simp at firstMember
  | [first] => cases first <;> simp at firstMember secondMember
  | [first, second] => cases first <;> cases second <;> simp_all
  | first :: second :: third :: _ =>
      cases first <;> cases second <;> cases third <;> simp at nodup

/-- Both calls succeed, but the file ends up with the second group only. -/
theorem overlapping_adds_lose_update :
    ∃ final, Run.run (System.step sampleCodec sampleCalls) (System.initial [])
        sampleStepsOverlapping = some final ∧
      (∀ pid, (final.procs pid).phase = .closed (.ok ())) ∧ final.file = sampleWireB ∧
      ¬ Serial sampleCodec sampleCalls [] final := by
  refine ⟨_, rfl, ?_, rfl, ?_⟩
  · intro pid
    cases pid <;> rfl
  · intro parts
    rcases parts with ⟨order, nodup, stored, file, -⟩
    have members : ∀ pid, pid ∈ order := by
      intro pid
      apply (stored pid).mpr
      cases pid <;> exact ⟨rfl, trivial⟩
    have result := file (by intro pid; cases pid <;> exact id)
    rcases order_of_both nodup members with equal | equal
    · rw [equal] at result
      exact absurd result (by decide)
    · rw [equal] at result
      exact absurd result (by decide)

end Cuttlefish.Instances.DataViewer
