import Cuttlefish.Fs.SharedBuf
import Cuttlefish.Instances.PersistentData
import Cuttlefish.Result

/-! # The instance database viewer

`DataViewer` of `host/commands/cvd/instances`: one call of `WithSharedLock` or
`WithExclusiveLock` on the backing file. The outcome of every system call the
method makes is a parameter. A task is a pure function, so the reentry that the
deadlock protector aborts on does not occur. -/

namespace Cuttlefish.Instances

open Fs

/-- How the system calls of one `DataViewer` call turn out. -/
structure Io where
  openOk : Bool
  flockOk : Bool
  reads : Nat → Transfer
  truncateOk : Bool
  seekOk : Bool
  writes : Nat → Transfer
  strError : String

/-- Every system call succeeds and transfers what it is asked for. -/
def Io.faultless : Io where
  openOk := true
  flockOk := true
  reads := fun _ => .upTo buffSize
  truncateOk := true
  seekOk := true
  writes := fun _ => .upTo buffSize
  strError := ""

namespace DataViewer

variable {Data R : Type} (codec : MessageCodec Data) (io : Io)

def lockBackingFile : Result Unit := do
  cfExpect io.openOk ("Failed to open instance database backing file: " ++ io.strError)
  cfExpect io.flockOk
    ("Failed to acquire lock for instance database backing file: " ++ io.strError)

def loadData (content : Bytes) : Result Data :=
  match readAll io.reads content with
  | none => .error (.err ("Failed to read from backing file: " ++ io.strError))
  | some str => .ok (codec.parseFromString str).2

def storeData (data : Data) (file : OpenFile) : Result Unit × OpenFile :=
  match codec.serializeToString data with
  | none => (.error (.err "Failed to serialize data"), file)
  | some str =>
      let (writeSize, file) := writeAll io.writes str file
      (cfExpect (writeSize == str.length)
        ("Failed to write to backing file: " ++ io.strError), file)

def withSharedLock (task : Data → Result R) (content : Bytes) : Result R := do
  lockBackingFile io
  let data ← loadData codec io content
  task data

/-- The returned result and the content of the backing file afterwards. The
task returns its value together with the data it modified. -/
def withExclusiveLock (task : Data → Result (R × Data)) (content : Bytes) :
    Result R × Bytes :=
  match lockBackingFile io with
  | .error failure => (.error failure, content)
  | .ok () =>
    match loadData codec io content with
    | .error failure => (.error failure, content)
    | .ok data =>
      match task data with
      | .error failure => (.error failure, content)
      | .ok (res, data) =>
        let file : OpenFile := ⟨content, content.length⟩
        if io.truncateOk then
          let file := file.truncate 0
          if io.seekOk then
            let file := file.lseek 0
            match storeData codec io data file with
            | (.error failure, file) => (.error failure, file.content)
            | (.ok (), file) => (.ok res, file.content)
          else (.error (.err ("Failed to seek to 0: " ++ io.strError)), file.content)
        else (.error (.err ("Failed to truncate fd: " ++ io.strError)), content)

/-! ## What a failed call leaves behind -/

variable {codec io}
variable {task : Data → Result (R × Data)} {content : Bytes}

theorem loadData_eq_ok {data : Data} (loaded : loadData codec io content = .ok data) :
    readAll io.reads content = some content ∧
      data = (codec.parseFromString content).2 := by
  rw [loadData] at loaded
  cases str : readAll io.reads content with
  | none => simp [str] at loaded
  | some whole =>
      have whole_eq := readAll_eq_content str
      simp only [str, Except.ok.injEq] at loaded
      exact ⟨by rw [whole_eq], by rw [← loaded, whole_eq]⟩

variable (codec io task content) in
/-- The call gets past `Truncate(0)`, with the value and the data of its task. -/
structure Truncates (res : R) (data : Data) : Prop where
  locked : lockBackingFile io = .ok ()
  read : readAll io.reads content = some content
  task : task (codec.parseFromString content).2 = .ok (res, data)
  truncated : io.truncateOk = true

theorem withExclusiveLock_of_not_truncates
    (stopped : ∀ res data, ¬ Truncates codec io task content res data) :
    ∃ failure, withExclusiveLock codec io task content = (.error failure, content) := by
  rw [withExclusiveLock]
  cases locked : lockBackingFile io with
  | error failure => exact ⟨failure, rfl⟩
  | ok _ =>
      cases loaded : loadData codec io content with
      | error failure => exact ⟨failure, rfl⟩
      | ok data =>
          rcases loadData_eq_ok loaded with ⟨read, dataEq⟩
          cases ran : task data with
          | error failure => exact ⟨failure, by simp only [ran]⟩
          | ok result =>
              rcases result with ⟨res, modified⟩
              by_cases truncated : io.truncateOk = true
              · rw [dataEq] at ran
                exact absurd ⟨locked, read, ran, truncated⟩ (stopped res modified)
              · exact ⟨_, by simp only [ran, truncated]; rfl⟩

private theorem storeData_empty (data : Data) :
    storeData codec io data ⟨[], 0⟩ =
      match codec.serializeToString data with
      | none => (.error (.err "Failed to serialize data"), ⟨[], 0⟩)
      | some str =>
          (cfExpect ((accepted io.writes str.length).1 == str.length)
              ("Failed to write to backing file: " ++ io.strError),
            OpenFile.write ⟨[], 0⟩ (str.take (accepted io.writes str.length).2)) := by
  rw [storeData]
  cases codec.serializeToString data with
  | none => rfl
  | some str => simp only [writeAll_eq io.writes str ⟨[], 0⟩]

/-- Past `Truncate(0)` nothing of the old content is left: the file ends up with
the bytes of the new serialization that were written before a step failed. -/
theorem withExclusiveLock_of_truncates {res : R} {data : Data}
    (truncates : Truncates codec io task content res data) :
    withExclusiveLock codec io task content =
      if io.seekOk then
        match codec.serializeToString data with
        | none => (.error (.err "Failed to serialize data"), [])
        | some str =>
            if (accepted io.writes str.length).1 = str.length then (.ok res, str)
            else (.error (.err ("Failed to write to backing file: " ++ io.strError)),
              str.take (accepted io.writes str.length).2)
      else (.error (.err ("Failed to seek to 0: " ++ io.strError)), []) := by
  have loaded : loadData codec io content = .ok (codec.parseFromString content).2 := by
    simp [loadData, truncates.read]
  rw [withExclusiveLock]
  simp only [truncates.locked, loaded, truncates.task, truncates.truncated, if_true,
    OpenFile.truncate_zero, OpenFile.lseek]
  by_cases sought : io.seekOk = true
  · simp only [sought, if_true, storeData_empty]
    cases codec.serializeToString data with
    | none => rfl
    | some str =>
        simp only [OpenFile.write_of_atEnd ⟨[], 0⟩ _ rfl, List.nil_append]
        by_cases complete : (accepted io.writes str.length).1 = str.length
        · have all := accepted_all complete
          simp [complete, all]
        · simp [complete, cfExpect]
  · simp [sought]

variable (codec io task content) in
/-- What the store leaves in the file is what the file held before: nothing
when the seek or the serialization fails, a prefix of the new serialization
when `WriteAll` stops early. -/
def StoreKeepsOnFailure (data : Data) : Prop :=
  if io.seekOk then
    match codec.serializeToString data with
    | none => content = []
    | some str =>
        (accepted io.writes str.length).1 = str.length ∨
          content = str.take (accepted io.writes str.length).2
  else content = []

theorem keeps_content_iff_of_truncates {res : R} {data : Data}
    (truncates : Truncates codec io task content res data) :
    ((withExclusiveLock codec io task content).1.ReturnsError →
        (withExclusiveLock codec io task content).2 = content) ↔
      StoreKeepsOnFailure codec io content data := by
  rw [withExclusiveLock_of_truncates truncates]
  rw [StoreKeepsOnFailure]
  by_cases sought : io.seekOk = true
  · simp only [sought, if_true]
    cases codec.serializeToString data with
    | none => simp [eq_comm]
    | some str =>
        by_cases complete : (accepted io.writes str.length).1 = str.length
        · simp [complete]
        · simp [complete, eq_comm]
  · simp [sought, eq_comm]

/-- `WithExclusiveLock` keeps its promise to leave the data alone on an error
exactly if no step fails after the truncation, unless what the failed step left
in the file happens to be the old content. -/
theorem withExclusiveLock_error_keeps_content_iff :
    ((withExclusiveLock codec io task content).1.ReturnsError →
        (withExclusiveLock codec io task content).2 = content) ↔
      ∀ res data, Truncates codec io task content res data →
        StoreKeepsOnFailure codec io content data := by
  constructor
  · intro keeps res data truncates
    exact (keeps_content_iff_of_truncates truncates).mp keeps
  · intro condition
    by_cases reached : ∃ res data, Truncates codec io task content res data
    · rcases reached with ⟨res, data, truncates⟩
      exact (keeps_content_iff_of_truncates truncates).mpr (condition res data truncates)
    · have stopped : ∀ res data, ¬ Truncates codec io task content res data :=
        fun res data truncates => reached ⟨res, data, truncates⟩
      rcases withExclusiveLock_of_not_truncates stopped with ⟨failure, result⟩
      intro _
      rw [result]

/-- The database is emptied when the seek after the truncation fails: the call
returns an error, and the stored group is gone. -/
theorem withExclusiveLock_failed_seek_loses_content :
    ¬ ((withExclusiveLock sampleCodec { Io.faultless with seekOk := false }
          (fun data => .ok ((), data)) sampleWireA).1.ReturnsError →
        (withExclusiveLock sampleCodec { Io.faultless with seekOk := false }
          (fun data => .ok ((), data)) sampleWireA).2 = sampleWireA) := by
  intro keeps
  have kept := keeps (by decide)
  revert kept
  decide

/-! ## Calls without faults -/

theorem withSharedLock_faultless (codec : MessageCodec Data) (task : Data → Result R)
    (content : Bytes) :
    withSharedLock codec .faultless task content =
      task (codec.parseFromString content).2 := by
  simp [withSharedLock, lockBackingFile, loadData, Io.faultless,
    readAll_complete (succeeds_upTo buffSize), bind, Except.bind]

theorem withExclusiveLock_faultless (codec : MessageCodec Data)
    (task : Data → Result (R × Data)) (content : Bytes) :
    withExclusiveLock codec .faultless task content =
      match task (codec.parseFromString content).2 with
      | .error failure => (.error failure, content)
      | .ok (res, data) =>
          match codec.serializeToString data with
          | none => (.error (.err "Failed to serialize data"), [])
          | some str => (.ok res, str) := by
  have locked : lockBackingFile .faultless = .ok () := rfl
  have read : readAll Io.faultless.reads content = some content :=
    readAll_complete (succeeds_upTo buffSize) content
  cases ran : task (codec.parseFromString content).2 with
  | error failure =>
      simp [withExclusiveLock, locked, loadData, read, ran]
  | ok result =>
      rcases result with ⟨res, data⟩
      have written : ∀ size, (accepted Io.faultless.writes size).1 = size := fun size => by
        rw [Io.faultless, accepted_complete (progresses_upTo (by decide))]
      rw [withExclusiveLock_of_truncates ⟨locked, read, ran, rfl⟩]
      simp only [written, if_true]
      rfl

end DataViewer

end Cuttlefish.Instances
