import Cuttlefish.Foundation.Bytes
import Cuttlefish.Foundation.Processes
import Cuttlefish.UserArtifacts.ChunkState

/-! # Uploading user artifacts

`UpdateArtifact` of `userartifacts.go` for one checksum: any number of calls write
chunks into the working directory under the read lock, and a call that finds all
bytes written validates the file and moves the directory under the write lock. A
call is a process that takes one step for each operation on the mutex, on the file
system and on the chunk state. -/

namespace Cuttlefish.UserArtifacts

/-- `UserArtifactChunk`; `file` is what the reader yields. -/
structure UserArtifactChunk where
  name : String
  file : Bytes
  offsetBytes : Int64
  sizeBytes : Int64
  fileSizeBytes : Int64
  deriving DecidableEq

structure Directory where
  files : List (String × Bytes)
  deriving DecidableEq

namespace Directory

def empty : Directory := ⟨[]⟩

def content (directory : Directory) (name : String) : Option Bytes := directory.files.lookup name

def setFile (name : String) (bytes : Bytes) : List (String × Bytes) → List (String × Bytes)
  | [] => [(name, bytes)]
  | file :: rest => if file.1 = name then (name, bytes) :: rest else file :: setFile name bytes rest

def set (directory : Directory) (name : String) (bytes : Bytes) : Directory where
  files := setFile name bytes directory.files

/-- `open(2)` with `O_CREAT` and without `O_TRUNC`. -/
def create (directory : Directory) (name : String) : Directory :=
  match directory.content name with
  | none => directory.set name []
  | some _ => directory

def write (directory : Directory) (name : String) (position : Nat) (bytes : Bytes) : Directory :=
  match directory.content name with
  | none => directory
  | some content => directory.set name (content.writeAt position bytes)

theorem lookup_setFile_self (name : String) (bytes : Bytes) (files : List (String × Bytes)) :
    (setFile name bytes files).lookup name = some bytes := by
  induction files with
  | nil => simp [setFile]
  | cons file rest induction =>
      rw [setFile]
      split
      next => simp
      next different =>
        rw [List.lookup_cons, beq_false_of_ne (Ne.symm different)]
        exact induction

theorem lookup_setFile_of_ne {name other : String} (different : other ≠ name) (bytes : Bytes)
    (files : List (String × Bytes)) :
    (setFile name bytes files).lookup other = files.lookup other := by
  induction files with
  | nil => simp [setFile, List.lookup_cons, beq_false_of_ne different]
  | cons file rest induction =>
      rw [setFile]
      split
      next same =>
        rw [List.lookup_cons, List.lookup_cons, same, beq_false_of_ne different]
      next => rw [List.lookup_cons, List.lookup_cons, induction]

@[simp] theorem content_set_self (directory : Directory) (name : String) (bytes : Bytes) :
    (directory.set name bytes).content name = some bytes :=
  lookup_setFile_self name bytes directory.files

theorem content_set_of_ne (directory : Directory) {name other : String} (different : other ≠ name)
    (bytes : Bytes) : (directory.set name bytes).content other = directory.content other :=
  lookup_setFile_of_ne different bytes directory.files

theorem content_create_self (directory : Directory) (name : String) :
    (directory.create name).content name = some ((directory.content name).getD []) := by
  rw [create]
  cases stored : directory.content name with
  | none => simp
  | some bytes => simpa using stored

theorem content_create_of_ne (directory : Directory) {name other : String}
    (different : other ≠ name) : (directory.create name).content other = directory.content other := by
  rw [create]
  cases directory.content name with
  | none => exact directory.content_set_of_ne different []
  | some bytes => rfl

theorem content_write_self (directory : Directory) (name : String) (position : Nat)
    (bytes : Bytes) :
    (directory.write name position bytes).content name =
      (directory.content name).map (·.writeAt position bytes) := by
  rw [write]
  cases stored : directory.content name with
  | none => exact stored
  | some content => simp

theorem content_write_of_ne (directory : Directory) {name other : String}
    (different : other ≠ name) (position : Nat) (bytes : Bytes) :
    (directory.write name position bytes).content other = directory.content other := by
  rw [write]
  cases directory.content name with
  | none => rfl
  | some content => exact directory.content_set_of_ne different _

end Directory

/-- What is there for a checksum: `RootDir/<checksum>`, `WorkDir/<checksum>` and the
entry of `chunkStates`. -/
structure Artifact where
  published : Option Directory
  working : Option Directory
  chunkState : Option ChunkState
  deriving DecidableEq

structure RWMutex where
  readers : List Nat
  writer : Option Nat
  deriving DecidableEq

/-- What the manager did with the artifact: a validation that succeeded, over the
bytes it read, and the rename of a directory. -/
inductive Event
  | validated (call : Nat) (name : String) (bytes : Bytes)
  | moved (call : Nat) (directory : Directory)
  deriving DecidableEq

structure Shared where
  artifact : Artifact
  mutex : RWMutex
  log : List Event
  deriving DecidableEq

/-- The errors of `UpdateArtifact`: two kinds of `AppError`, and plain errors, of
which the text of the operating system is left out. -/
inductive UpdateError
  | badRequest (message : String)
  | conflict (message : String)
  | plain (message : String)
  deriving DecidableEq

/-- Where a call stands; the operation that comes next gives the name. A call that
waits for the write lock or holds it got `mayMoveArtifact`. -/
inductive Phase
  | called
  | checkingExists
  | creatingDir
  | openingFile
  | copying (position : Nat) (rest : Bytes)
  | updatingState
  | testingCompleted
  | readUnlocking (error : Option UpdateError) (mayMoveArtifact : Bool)
  | locking
  | checkingExistsAgain
  | validating
  | movingDir
  | deletingState
  | unlocking (error : Option UpdateError)
  | returned (error : Option UpdateError)
  deriving DecidableEq

/-- What the system makes of an operation: it succeeds, it fails, or it is one
`write(2)` that wrote so many bytes. -/
inductive Outcome
  | success
  | failure
  | written (count : Nat)
  deriving DecidableEq

def checkChunk (chunk : UserArtifactChunk) : Option UpdateError :=
  if chunk.offsetBytes < 0 then
    some (.badRequest ("invalid value (chunk_offset:" ++ toString chunk.offsetBytes ++ ")"))
  else if chunk.sizeBytes < 0 then
    some (.plain ("invalid value (chunk_size:" ++ toString chunk.sizeBytes ++ ")"))
  else if chunk.fileSizeBytes < 0 then
    some (.badRequest ("invalid value (file_size:" ++ toString chunk.fileSizeBytes ++ ")"))
  else if chunk.offsetBytes + chunk.sizeBytes > chunk.fileSizeBytes then
    some (.badRequest ("invalid value pair (chunk_offset:" ++ toString chunk.offsetBytes ++
      ", chunk_size:" ++ toString chunk.sizeBytes ++ ", file_size:" ++
      toString chunk.fileSizeBytes ++ ")"))
  else none

/-- The name is one of a file in the directory. Names come from `FormFile`, which
leaves the last element of a path; the others are the directories themselves, which
cannot be opened for writing. -/
def isFileName (name : String) : Bool :=
  name != "" && name != "." && name != ".." && name != "/"

def updateState (chunk : UserArtifactChunk) (state : Option ChunkState) : ChunkState :=
  let state := state.getD (ChunkState.new chunk.fileSizeBytes.toInt)
  match state.update chunk.offsetBytes.toInt (chunk.offsetBytes + chunk.sizeBytes).toInt with
  | .error _ => state
  | .ok next => next

def validateChecksum (sum256 : Bytes → String) (checksum : String) (chunk : UserArtifactChunk)
    (bytes : Bytes) : Bool :=
  chunk.fileSizeBytes.toInt == bytes.length && checksum == sum256 bytes

namespace Artifact

def createDir (artifact : Artifact) : Artifact :=
  { artifact with working := some (artifact.working.getD .empty) }

def createFile (artifact : Artifact) (name : String) : Artifact :=
  { artifact with working := artifact.working.map (·.create name) }

def write (artifact : Artifact) (name : String) (position : Nat) (bytes : Bytes) : Artifact :=
  match artifact.published with
  | some directory => { artifact with published := some (directory.write name position bytes) }
  | none => { artifact with working := artifact.working.map (·.write name position bytes) }

/-- `rename(2)` of the working directory, which does not replace a directory that has
files. -/
def rename (artifact : Artifact) : Option (Directory × Artifact) :=
  if artifact.published.all (·.files.isEmpty) then
    artifact.working.map fun directory =>
      (directory, { artifact with published := some directory, working := none })
  else none

theorem rename_eq_some {artifact next : Artifact} {directory : Directory}
    (renamed : artifact.rename = some (directory, next)) :
    artifact.working = some directory ∧
      next = { artifact with published := some directory, working := none } := by
  rw [rename] at renamed
  split at renamed
  next =>
    cases stored : artifact.working with
    | none => simp [stored] at renamed
    | some working =>
        simp only [stored, Option.map_some, Option.some.injEq, Prod.mk.injEq] at renamed
        exact ⟨congrArg some renamed.1, by rw [← renamed.2, renamed.1]⟩
  next => cases renamed

def updateChunkState (artifact : Artifact) (chunk : UserArtifactChunk) : Artifact :=
  { artifact with chunkState := some (updateState chunk artifact.chunkState) }

def deleteChunkState (artifact : Artifact) : Artifact := { artifact with chunkState := none }

end Artifact

section

variable (sum256 : Bytes → String) (checksum : String) (chunk : Nat → UserArtifactChunk)

def updateError (message : String) : Option UpdateError :=
  some (.plain ("failed to update chunk: " ++ message))

def moveError (message : String) : Option UpdateError :=
  some (.plain ("failed to move the user artifact from working directory: " ++ message))

/-- One step of a call. A step that is not possible, such as taking a lock that is
held, is `none`. -/
def act (call : Nat) (shared : Shared) (phase : Phase) (outcome : Outcome) :
    Option (Shared × Phase) :=
  let artifact := shared.artifact
  let mutex := shared.mutex
  match phase, outcome with
  | .called, .success =>
      match checkChunk (chunk call) with
      | some error => some (shared, .returned (some error))
      | none =>
          if mutex.writer = none then
            some ({ shared with mutex := { mutex with readers := call :: mutex.readers } },
              .checkingExists)
          else none
  | .checkingExists, .success =>
      if artifact.published.isSome then
        some (shared, .readUnlocking
          (some (.conflict ("user artifact(checksum:" ++ checksum.quote ++ ") already exists"))) false)
      else some (shared, .creatingDir)
  | .checkingExists, .failure =>
      some (shared, .readUnlocking (updateError "failed to check existence of directory") false)
  | .creatingDir, .success =>
      some ({ shared with artifact := artifact.createDir }, .openingFile)
  | .creatingDir, .failure =>
      some (shared, .readUnlocking (updateError "failed to create working directory") false)
  | .openingFile, .success =>
      if isFileName (chunk call).name then
        some ({ shared with artifact := artifact.createFile (chunk call).name },
          .copying (chunk call).offsetBytes.toInt.toNat (chunk call).file)
      else none
  | .openingFile, .failure =>
      some (shared, .readUnlocking (updateError "failed to open or create working file") false)
  | .copying position rest, .written count =>
      let written := rest.take count
      some ({ shared with artifact := artifact.write (chunk call).name position written },
        .copying (position + written.length) (rest.drop count))
  | .copying _ rest, .success => if rest = [] then some (shared, .updatingState) else none
  | .copying _ _, .failure =>
      some (shared, .readUnlocking (updateError "failed to copy chunk into working file") false)
  | .updatingState, .success =>
      some ({ shared with artifact := artifact.updateChunkState (chunk call) }, .testingCompleted)
  | .testingCompleted, .success =>
      some (shared, .readUnlocking none (artifact.chunkState.any ChunkState.isCompleted))
  | .readUnlocking error mayMoveArtifact, .success =>
      some ({ shared with mutex := { mutex with readers := mutex.readers.filter (· != call) } },
        if mayMoveArtifact then .locking else .returned error)
  | .locking, .success =>
      if mutex.writer = none ∧ mutex.readers = [] then
        some ({ shared with mutex := { mutex with writer := some call } }, .checkingExistsAgain)
      else none
  | .checkingExistsAgain, .success =>
      some (shared, if artifact.published.isSome then .unlocking none else .validating)
  | .checkingExistsAgain, .failure =>
      some (shared, .unlocking (moveError "failed to check existence of directory"))
  | .validating, .success =>
      match artifact.working.bind (·.content (chunk call).name) with
      | none => none
      | some bytes =>
          if validateChecksum sum256 checksum (chunk call) bytes then
            some ({ shared with log := .validated call (chunk call).name bytes :: shared.log },
              .movingDir)
          else some (shared, .unlocking none)
  | .validating, .failure =>
      some (shared, .unlocking
        (moveError "failed to validate checksum of the user artifact"))
  | .movingDir, .success =>
      match artifact.rename with
      | none => none
      | some (directory, artifact) =>
          some ({ shared with artifact := artifact, log := .moved call directory :: shared.log },
            .deletingState)
  | .movingDir, .failure =>
      some (shared, .unlocking (moveError "failed to move the user artifact"))
  | .deletingState, .success =>
      some ({ shared with artifact := artifact.deleteChunkState }, .unlocking none)
  | .unlocking error, .success =>
      some ({ shared with mutex := { mutex with writer := none } }, .returned error)
  | _, _ => none

/-! ## What a step does -/

inductive Continues (call : Nat) (shared : Shared) : Phase → Phase → Prop
  | rejected {error : UpdateError} (invalid : checkChunk (chunk call) = some error) :
      Continues call shared .called (.returned (some error))
  | conflict (error : UpdateError) :
      Continues call shared .checkingExists (.readUnlocking (some error) false)
  | absent (unpublished : shared.artifact.published = none) :
      Continues call shared .checkingExists .creatingDir
  | dirFails (error : UpdateError) :
      Continues call shared .creatingDir (.readUnlocking (some error) false)
  | openFails (error : UpdateError) :
      Continues call shared .openingFile (.readUnlocking (some error) false)
  | copyFails (position : Nat) (rest : Bytes) (error : UpdateError) :
      Continues call shared (.copying position rest) (.readUnlocking (some error) false)
  | copied (position : Nat) : Continues call shared (.copying position []) .updatingState
  | tested :
      Continues call shared .testingCompleted
        (.readUnlocking none (shared.artifact.chunkState.any ChunkState.isCompleted))
  | present (published : shared.artifact.published.isSome = true) :
      Continues call shared .checkingExistsAgain (.unlocking none)
  | absentAgain (unpublished : shared.artifact.published = none) :
      Continues call shared .checkingExistsAgain .validating
  | checkFails (error : UpdateError) :
      Continues call shared .checkingExistsAgain (.unlocking (some error))
  | mismatch {bytes : Bytes}
      (stored : shared.artifact.working.bind (·.content (chunk call).name) = some bytes)
      (differs : validateChecksum sum256 checksum (chunk call) bytes = false) :
      Continues call shared .validating (.unlocking none)
  | validationFails (error : UpdateError) :
      Continues call shared .validating (.unlocking (some error))
  | renameFails (error : UpdateError) :
      Continues call shared .movingDir (.unlocking (some error))

inductive Acts (call : Nat) (shared : Shared) : Phase → Outcome → Shared → Phase → Prop
  | continues {phase next : Phase} {outcome : Outcome}
      (quiet : Continues sum256 checksum chunk call shared phase next) :
      Acts call shared phase outcome shared next
  | readLocks (valid : checkChunk (chunk call) = none) (free : shared.mutex.writer = none) :
      Acts call shared .called .success
        { shared with
          mutex := { shared.mutex with readers := call :: shared.mutex.readers } } .checkingExists
  | createsDir :
      Acts call shared .creatingDir .success
        { shared with artifact := shared.artifact.createDir } .openingFile
  | createsFile (named : isFileName (chunk call).name = true) :
      Acts call shared .openingFile .success
        { shared with artifact := shared.artifact.createFile (chunk call).name }
        (.copying (chunk call).offsetBytes.toInt.toNat (chunk call).file)
  | writes (position count : Nat) (rest : Bytes) :
      Acts call shared (.copying position rest) (.written count)
        { shared with
          artifact := shared.artifact.write (chunk call).name position (rest.take count) }
        (.copying (position + (rest.take count).length) (rest.drop count))
  | updatesState :
      Acts call shared .updatingState .success
        { shared with artifact := shared.artifact.updateChunkState (chunk call) } .testingCompleted
  | readUnlocks (error : Option UpdateError) (mayMoveArtifact : Bool) :
      Acts call shared (.readUnlocking error mayMoveArtifact) .success
        { shared with
          mutex := { shared.mutex with readers := shared.mutex.readers.filter (· != call) } }
        (if mayMoveArtifact then .locking else .returned error)
  | locks (free : shared.mutex.writer = none) (alone : shared.mutex.readers = []) :
      Acts call shared .locking .success
        { shared with mutex := { shared.mutex with writer := some call } } .checkingExistsAgain
  | validates {bytes : Bytes}
      (stored : shared.artifact.working.bind (·.content (chunk call).name) = some bytes)
      (valid : validateChecksum sum256 checksum (chunk call) bytes = true) :
      Acts call shared .validating .success
        { shared with log := .validated call (chunk call).name bytes :: shared.log } .movingDir
  | renames {directory : Directory} {artifact : Artifact}
      (renamed : shared.artifact.rename = some (directory, artifact)) :
      Acts call shared .movingDir .success
        { shared with artifact := artifact, log := .moved call directory :: shared.log }
        .deletingState
  | deletesState :
      Acts call shared .deletingState .success
        { shared with artifact := shared.artifact.deleteChunkState } (.unlocking none)
  | unlocks (error : Option UpdateError) :
      Acts call shared (.unlocking error) .success
        { shared with mutex := { shared.mutex with writer := none } } (.returned error)

section

variable {call : Nat} {shared sharedNext : Shared} {phaseNext : Phase} {outcome : Outcome}

theorem acts_of_called
    (acted : act sum256 checksum chunk call shared .called outcome =
      some (sharedNext, phaseNext)) :
    Acts sum256 checksum chunk call shared .called outcome sharedNext phaseNext := by
  cases outcome with
  | success =>
      delta act at acted
      dsimp only at acted
      split at acted
      next error invalid =>
        cases acted
        exact .continues (.rejected invalid)
      next valid =>
        split at acted
        next free =>
          cases acted
          exact .readLocks valid free
        next => cases acted
  | failure | written _ => cases acted

theorem acts_of_checkingExists
    (acted : act sum256 checksum chunk call shared .checkingExists outcome =
      some (sharedNext, phaseNext)) :
    Acts sum256 checksum chunk call shared .checkingExists outcome sharedNext phaseNext := by
  cases outcome with
  | success =>
      delta act at acted
      dsimp only at acted
      split at acted
      next =>
        cases acted
        exact .continues (.conflict _)
      next unpublished =>
        cases acted
        exact .continues (.absent (by simpa using unpublished))
  | failure =>
      cases acted
      exact .continues (.conflict _)
  | written _ => cases acted

theorem acts_of_openingFile
    (acted : act sum256 checksum chunk call shared .openingFile outcome =
      some (sharedNext, phaseNext)) :
    Acts sum256 checksum chunk call shared .openingFile outcome sharedNext phaseNext := by
  cases outcome with
  | success =>
      delta act at acted
      dsimp only at acted
      split at acted
      next named =>
        cases acted
        exact .createsFile named
      next => cases acted
  | failure =>
      cases acted
      exact .continues (.openFails _)
  | written _ => cases acted

theorem acts_of_copying {position : Nat} {rest : Bytes}
    (acted : act sum256 checksum chunk call shared (.copying position rest) outcome =
      some (sharedNext, phaseNext)) :
    Acts sum256 checksum chunk call shared (.copying position rest) outcome sharedNext phaseNext := by
  cases outcome with
  | success =>
      delta act at acted
      dsimp only at acted
      split at acted
      next finished =>
        cases acted
        subst finished
        exact .continues (.copied position)
      next => cases acted
  | failure =>
      cases acted
      exact .continues (.copyFails position rest _)
  | written count =>
      cases acted
      exact .writes position count rest

theorem acts_of_locking
    (acted : act sum256 checksum chunk call shared .locking outcome =
      some (sharedNext, phaseNext)) :
    Acts sum256 checksum chunk call shared .locking outcome sharedNext phaseNext := by
  cases outcome with
  | success =>
      delta act at acted
      dsimp only at acted
      split at acted
      next free =>
        cases acted
        exact .locks free.1 free.2
      next => cases acted
  | failure | written _ => cases acted

theorem acts_of_checkingExistsAgain
    (acted : act sum256 checksum chunk call shared .checkingExistsAgain outcome =
      some (sharedNext, phaseNext)) :
    Acts sum256 checksum chunk call shared .checkingExistsAgain outcome sharedNext phaseNext := by
  cases outcome with
  | success =>
      delta act at acted
      simp only [Option.some.injEq, Prod.mk.injEq] at acted
      rcases acted with ⟨rfl, rfl⟩
      split
      next published => exact .continues (.present published)
      next unpublished => exact .continues (.absentAgain (by simpa using unpublished))
  | failure =>
      cases acted
      exact .continues (.checkFails _)
  | written _ => cases acted

theorem acts_of_validating
    (acted : act sum256 checksum chunk call shared .validating outcome =
      some (sharedNext, phaseNext)) :
    Acts sum256 checksum chunk call shared .validating outcome sharedNext phaseNext := by
  cases outcome with
  | success =>
      delta act at acted
      dsimp only at acted
      split at acted
      next => cases acted
      next bytes stored =>
        split at acted
        next valid =>
          cases acted
          exact .validates stored valid
        next differs =>
          cases acted
          exact .continues (.mismatch stored (by simpa using differs))
  | failure =>
      cases acted
      exact .continues (.validationFails _)
  | written _ => cases acted

theorem acts_of_movingDir
    (acted : act sum256 checksum chunk call shared .movingDir outcome =
      some (sharedNext, phaseNext)) :
    Acts sum256 checksum chunk call shared .movingDir outcome sharedNext phaseNext := by
  cases outcome with
  | success =>
      delta act at acted
      dsimp only at acted
      split at acted
      next => cases acted
      next directory artifact renamed =>
        cases acted
        exact .renames renamed
  | failure =>
      cases acted
      exact .continues (.renameFails _)
  | written _ => cases acted

end

theorem acts_of_act {call : Nat} {shared sharedNext : Shared} {phase phaseNext : Phase}
    {outcome : Outcome}
    (acted : act sum256 checksum chunk call shared phase outcome =
      some (sharedNext, phaseNext)) :
    Acts sum256 checksum chunk call shared phase outcome sharedNext phaseNext := by
  cases phase with
  | called => exact acts_of_called sum256 checksum chunk acted
  | checkingExists => exact acts_of_checkingExists sum256 checksum chunk acted
  | creatingDir =>
      cases outcome with
      | success =>
          cases acted
          exact .createsDir
      | failure =>
          cases acted
          exact .continues (.dirFails _)
      | written _ => cases acted
  | openingFile => exact acts_of_openingFile sum256 checksum chunk acted
  | copying _ _ => exact acts_of_copying sum256 checksum chunk acted
  | updatingState =>
      cases outcome with
      | success =>
          cases acted
          exact .updatesState
      | failure | written _ => cases acted
  | testingCompleted =>
      cases outcome with
      | success =>
          cases acted
          exact .continues .tested
      | failure | written _ => cases acted
  | readUnlocking error mayMoveArtifact =>
      cases outcome with
      | success =>
          cases acted
          exact .readUnlocks error mayMoveArtifact
      | failure | written _ => cases acted
  | locking => exact acts_of_locking sum256 checksum chunk acted
  | checkingExistsAgain => exact acts_of_checkingExistsAgain sum256 checksum chunk acted
  | validating => exact acts_of_validating sum256 checksum chunk acted
  | movingDir => exact acts_of_movingDir sum256 checksum chunk acted
  | deletingState =>
      cases outcome with
      | success =>
          cases acted
          exact .deletesState
      | failure | written _ => cases acted
  | unlocking error =>
      cases outcome with
      | success =>
          cases acted
          exact .unlocks error
      | failure | written _ => cases acted
  | returned error =>
      cases outcome with
      | success | failure | written _ => cases acted

def initial : Processes.System Nat Shared Phase where
  shared :=
    { artifact := { published := none, working := none, chunkState := none }
      mutex := { readers := [], writer := none }
      log := [] }
  phase _ := .called

abbrev step := Processes.step (act sum256 checksum chunk)

end

/-- The steps of a call that meets no errors and no other call, up to the point where it
knows whether it may move the artifact. -/
def writesChunk (call : Nat) (count : Nat) : List (Nat × Outcome) :=
  [(call, .success), (call, .success), (call, .success), (call, .success),
    (call, .written count), (call, .success), (call, .success), (call, .success),
    (call, .success)]

def sampleSum : Bytes → String
  | [] => "e3b0c44298fc1c149afbf4c8996fb92427ae41e4649b934ca495991b7852b855"
  | [97] => "ca978112ca1bbdcafac231b39a23dc4da786eff8147c4e72b9807785afee48bb"
  | [97, 98] => "fb8e20fc2e4c3f248c60c39bd652f3c1347298bb977b8b4d5903b85055620603"
  | [98] => "3e23e8160039594a33894f6564e1b1348bbd7a0088d42c4acb73eeaed59c009d"
  | _ => ""

end Cuttlefish.UserArtifacts
