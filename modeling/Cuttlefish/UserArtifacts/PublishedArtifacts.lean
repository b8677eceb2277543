import Cuttlefish.UserArtifacts.UpdateArtifact

/-! # Published artifacts are valid and do not change

In every interleaving of calls for a checksum the directory in `RootDir` was moved
there by a call that had validated one of its files under the same lock, and it stays
as it was moved. Calls that upload under one name leave no other file in it. -/

namespace Cuttlefish.UserArtifacts

open Processes

variable (sum256 : Bytes → String) (checksum : String) (chunk : Nat → UserArtifactChunk)

/-! ## Who holds the mutex -/

namespace Phase

def holdsRead : Phase → Bool
  | .checkingExists | .creatingDir | .openingFile | .copying _ _ | .updatingState
  | .testingCompleted | .readUnlocking _ _ => true
  | _ => false

def holdsWrite : Phase → Bool
  | .checkingExistsAgain | .validating | .movingDir | .deletingState | .unlocking _ => true
  | _ => false

def foundAbsent : Phase → Bool
  | .creatingDir | .openingFile | .copying _ _ | .updatingState | .testingCompleted
  | .validating | .movingDir => true
  | _ => false

end Phase

/-- The directory was moved right after one of its files had been validated. -/
def MovedAfterValidation (directory : Directory) (log : List Event) : Prop :=
  ∃ later call bytes earlier,
    log = later ++ Event.moved call directory ::
        Event.validated call (chunk call).name bytes :: earlier ∧
      directory.content (chunk call).name = some bytes ∧ sum256 bytes = checksum

structure Common (shared : Shared) : Prop where
  exclusive : shared.mutex.writer.isSome = true → shared.mutex.readers = []
  moved : ∀ directory, shared.artifact.published = some directory →
    MovedAfterValidation sum256 checksum chunk directory shared.log

structure Own (call : Nat) (shared : Shared) (phase : Phase) : Prop where
  reads : phase.holdsRead = true ↔ call ∈ shared.mutex.readers
  writes : phase.holdsWrite = true ↔ shared.mutex.writer = some call
  absent : phase.foundAbsent = true → shared.artifact.published = none
  validated : phase = .movingDir → ∃ directory bytes earlier,
    shared.artifact.working = some directory ∧
      directory.content (chunk call).name = some bytes ∧ sum256 bytes = checksum ∧
      shared.log = .validated call (chunk call).name bytes :: earlier

section

variable {sum256 checksum chunk} {call other : Nat} {shared next : Shared} {phase : Phase}

theorem Phase.holds_of_foundAbsent (found : phase.foundAbsent = true) :
    phase.holdsRead = true ∨ phase.holdsWrite = true := by
  cases phase <;> simp_all [Phase.foundAbsent, Phase.holdsRead, Phase.holdsWrite]

theorem Own.frame (own : Own sum256 checksum chunk other shared phase)
    (readers : other ∈ next.mutex.readers ↔ other ∈ shared.mutex.readers)
    (writer : next.mutex.writer = some other ↔ shared.mutex.writer = some other)
    (published : other ∈ shared.mutex.readers ∨ shared.mutex.writer = some other →
      next.artifact.published = shared.artifact.published)
    (protected_ : shared.mutex.writer = some other →
      next.artifact.working = shared.artifact.working ∧ next.log = shared.log) :
    Own sum256 checksum chunk other next phase where
  reads := own.reads.trans readers.symm
  writes := own.writes.trans writer.symm
  absent := by
    intro found
    rw [← own.absent found]
    apply published
    rcases Phase.holds_of_foundAbsent found with reader | writer
    · exact .inl (own.reads.mp reader)
    · exact .inr (own.writes.mp writer)
  validated := by
    intro moving
    have holds : shared.mutex.writer = some other := own.writes.mp (by rw [moving]; rfl)
    rcases own.validated moving with ⟨directory, bytes, earlier, working, content, valid, log⟩
    rcases protected_ holds with ⟨sameWorking, sameLog⟩
    exact ⟨directory, bytes, earlier, sameWorking.trans working, content, valid,
      sameLog.trans log⟩

theorem Common.not_writer (common : Common sum256 checksum chunk shared)
    (reader : call ∈ shared.mutex.readers) : shared.mutex.writer ≠ some other := by
  intro writer
  have none := common.exclusive (by rw [writer]; rfl)
  rw [none] at reader
  cases reader

end

/-! ## Steps -/

section

variable {sum256 checksum chunk} {call : Nat} {shared next : Shared} {phase phaseNext : Phase}
  {outcome : Outcome}

theorem common_of_acts (common : Common sum256 checksum chunk shared)
    (own : Own sum256 checksum chunk call shared phase)
    (acts : Acts sum256 checksum chunk call shared phase outcome next phaseNext) :
    Common sum256 checksum chunk next := by
  cases acts with
  | continues _ | createsDir | createsFile _ | updatesState | deletesState =>
      exact ⟨common.exclusive, common.moved⟩
  | readLocks _ free => exact ⟨fun held => by simp [free] at held, common.moved⟩
  | writes position count rest =>
      have absent : shared.artifact.published = none := own.absent rfl
      refine ⟨common.exclusive, ?_⟩
      intro directory published
      simp [Artifact.write, absent] at published
  | readUnlocks error mayMoveArtifact =>
      refine ⟨fun held => ?_, common.moved⟩
      simp [common.exclusive held]
  | locks free alone => exact ⟨fun _ => alone, common.moved⟩
  | validates stored valid =>
      have absent : shared.artifact.published = none := own.absent rfl
      refine ⟨common.exclusive, ?_⟩
      intro directory published
      simp [absent] at published
  | renames renamed =>
      refine ⟨common.exclusive, ?_⟩
      rcases own.validated rfl with ⟨directory, bytes, earlier, working, content, valid, log⟩
      rcases Artifact.rename_eq_some renamed with ⟨isWorking, isNext⟩
      subst isNext
      intro published isPublished
      cases isPublished
      cases working.symm.trans isWorking
      exact ⟨[], call, bytes, earlier, by rw [log]; rfl, content, valid⟩
  | unlocks error => exact ⟨fun held => by simp at held, common.moved⟩

theorem own_of_acts (own : Own sum256 checksum chunk call shared phase)
    (acts : Acts sum256 checksum chunk call shared phase outcome next phaseNext) :
    Own sum256 checksum chunk call next phaseNext := by
  have reads := own.reads
  have writes := own.writes
  cases acts with
  | continues quiet =>
      cases quiet with
      | rejected _ | conflict _ | dirFails _ | openFails _ | copyFails _ _ _ | tested | present _
      | checkFails _ | mismatch _ _ | validationFails _ | renameFails _ =>
          exact ⟨reads, writes, nofun, nofun⟩
      | absent unpublished | absentAgain unpublished =>
          exact ⟨reads, writes, fun _ => unpublished, nofun⟩
      | copied position =>
          exact ⟨reads, writes, fun _ => own.absent rfl, nofun⟩
  | readLocks valid free =>
      refine ⟨?_, ?_, nofun, nofun⟩
      · simp [Phase.holdsRead]
      · simp [Phase.holdsWrite, free]
  | createsDir | createsFile _ | updatesState =>
      exact ⟨reads, writes, fun _ => own.absent rfl, nofun⟩
  | writes position count rest =>
      refine ⟨reads, writes, fun _ => ?_, nofun⟩
      have absent : shared.artifact.published = none := own.absent rfl
      simp [Artifact.write, absent]
  | readUnlocks error mayMoveArtifact =>
      have notWriter : shared.mutex.writer ≠ some call := fun held => by
        cases writes.mpr held
      cases mayMoveArtifact with
      | true =>
          refine ⟨?_, ?_, nofun, nofun⟩
          · simp [Phase.holdsRead]
          · simp [Phase.holdsWrite, notWriter]
      | false =>
          refine ⟨?_, ?_, nofun, nofun⟩
          · simp [Phase.holdsRead]
          · simp [Phase.holdsWrite, notWriter]
  | locks free alone =>
      refine ⟨?_, ?_, nofun, nofun⟩
      · simp [Phase.holdsRead, alone]
      · simp [Phase.holdsWrite]
  | validates stored valid =>
      refine ⟨reads, writes, fun _ => own.absent rfl, fun _ => ?_⟩
      rcases Option.bind_eq_some_iff.mp stored with ⟨directory, working, content⟩
      simp only [validateChecksum, Bool.and_eq_true, beq_iff_eq] at valid
      exact ⟨directory, _, shared.log, working, content, valid.2.symm, rfl⟩
  | renames _ | deletesState =>
      exact ⟨reads, writes, nofun, nofun⟩
  | unlocks error =>
      have notReader : call ∉ shared.mutex.readers := fun held => by
        cases reads.mpr held
      refine ⟨?_, ?_, nofun, nofun⟩
      · simp [Phase.holdsRead, notReader]
      · simp [Phase.holdsWrite]

theorem others_of_acts (common : Common sum256 checksum chunk shared)
    (own : Own sum256 checksum chunk call shared phase)
    (acts : Acts sum256 checksum chunk call shared phase outcome next phaseNext) {other : Nat}
    {otherPhase : Phase} (different : other ≠ call)
    (otherOwn : Own sum256 checksum chunk other shared otherPhase) :
    Own sum256 checksum chunk other next otherPhase := by
  cases acts with
  | continues _ => exact otherOwn
  | readLocks _ _ =>
      exact otherOwn.frame (by simp [different]) Iff.rfl (fun _ => rfl) (fun _ => ⟨rfl, rfl⟩)
  | createsDir | createsFile _ | updatesState =>
      have reader : call ∈ shared.mutex.readers := own.reads.mp rfl
      exact otherOwn.frame Iff.rfl Iff.rfl (fun _ => rfl)
        (fun held => absurd held (common.not_writer reader))
  | writes position count rest =>
      have reader : call ∈ shared.mutex.readers := own.reads.mp rfl
      have absent : shared.artifact.published = none := own.absent rfl
      refine otherOwn.frame Iff.rfl Iff.rfl (fun _ => ?_)
        (fun held => absurd held (common.not_writer reader))
      simp [Artifact.write, absent]
  | readUnlocks error mayMoveArtifact =>
      exact otherOwn.frame (by simp [different]) Iff.rfl (fun _ => rfl) (fun _ => ⟨rfl, rfl⟩)
  | locks free alone =>
      refine otherOwn.frame Iff.rfl ?_ (fun _ => rfl) (fun _ => ⟨rfl, rfl⟩)
      simp [free, Ne.symm different]
  | validates _ _ =>
      have writer : shared.mutex.writer = some call := own.writes.mp rfl
      refine otherOwn.frame Iff.rfl Iff.rfl (fun _ => rfl) (fun held => ?_)
      exact absurd (Option.some.inj (held.symm.trans writer)) different
  | renames _ =>
      have writer : shared.mutex.writer = some call := own.writes.mp rfl
      have notWriter : shared.mutex.writer ≠ some other := fun held =>
        different (Option.some.inj (held.symm.trans writer))
      have alone : shared.mutex.readers = [] := common.exclusive (by rw [writer]; rfl)
      refine otherOwn.frame Iff.rfl Iff.rfl (fun held => ?_) (fun held => absurd held notWriter)
      rcases held with reader | held
      · rw [alone] at reader
        cases reader
      · exact absurd held notWriter
  | deletesState => exact otherOwn.frame Iff.rfl Iff.rfl (fun _ => rfl) (fun _ => ⟨rfl, rfl⟩)
  | unlocks error =>
      have writer : shared.mutex.writer = some call := own.writes.mp rfl
      refine otherOwn.frame Iff.rfl ?_ (fun _ => rfl) (fun _ => ⟨rfl, rfl⟩)
      simp [writer, Ne.symm different]

theorem published_of_acts {directory : Directory}
    (own : Own sum256 checksum chunk call shared phase)
    (acts : Acts sum256 checksum chunk call shared phase outcome next phaseNext)
    (published : shared.artifact.published = some directory) :
    next.artifact.published = some directory := by
  cases acts with
  | continues _ | readLocks _ _ | createsDir | createsFile _ | updatesState | readUnlocks _ _
  | locks _ _ | validates _ _ | deletesState | unlocks _ => exact published
  | writes _ _ _ | renames _ =>
      have absent : shared.artifact.published = none := own.absent rfl
      rw [absent] at published
      cases published

end

abbrev Guarded : System Nat Shared Phase → Prop :=
  Everywhere (Common sum256 checksum chunk) (Own sum256 checksum chunk)

theorem guarded_initial : Guarded sum256 checksum chunk initial where
  common := ⟨nofun, nofun⟩
  own call := by
    refine ⟨?_, ?_, nofun, nofun⟩
    · simp [initial, Phase.holdsRead]
    · simp [initial, Phase.holdsWrite]

variable {sum256 checksum chunk}

theorem preserves_guarded :
    Preserves (act sum256 checksum chunk) (fun _ _ _ _ => True) (Common sum256 checksum chunk)
      (Own sum256 checksum chunk) := by
  intro call shared phase outcome next phaseNext common own _ acted
  have acts := acts_of_act sum256 checksum chunk acted
  exact ⟨common_of_acts common own acts, own_of_acts own acts,
    fun other otherPhase different otherOwn =>
      others_of_acts common own acts different otherOwn⟩

theorem Guarded.step {system next : System Nat Shared Phase} {label : Nat × Outcome}
    (guarded : Guarded sum256 checksum chunk system)
    (stepped : step sum256 checksum chunk system label = some next) :
    Guarded sum256 checksum chunk next :=
  Everywhere.step preserves_guarded guarded trivial stepped

theorem Guarded.published_step {system next : System Nat Shared Phase} {label : Nat × Outcome}
    {directory : Directory} (guarded : Guarded sum256 checksum chunk system)
    (published : system.shared.artifact.published = some directory)
    (stepped : UserArtifacts.step sum256 checksum chunk system label = some next) :
    next.shared.artifact.published = some directory := by
  rcases step_eq_some.mp stepped with ⟨shared, phase, acted, isNext⟩
  subst isNext
  exact published_of_acts (guarded.own label.1) (acts_of_act sum256 checksum chunk acted) published

theorem Guarded.published_run {system final : System Nat Shared Phase}
    {labels : List (Nat × Outcome)} {directory : Directory}
    (guarded : Guarded sum256 checksum chunk system)
    (published : system.shared.artifact.published = some directory)
    (reached : Run.run (UserArtifacts.step sum256 checksum chunk) system labels = some final) :
    final.shared.artifact.published = some directory := by
  have preserved : ∀ state label next,
      Guarded sum256 checksum chunk state ∧ state.shared.artifact.published = some directory →
        UserArtifacts.step sum256 checksum chunk state label = some next →
          Guarded sum256 checksum chunk next ∧
            next.shared.artifact.published = some directory :=
    fun state label next holds stepped =>
      ⟨holds.1.step stepped, holds.1.published_step holds.2 stepped⟩
  exact (Run.invariant_of_run preserved ⟨guarded, published⟩ reached).2

/-! ## Uploads under one name -/

variable (chunk) in
/-- A file is created only where no file of another name is. -/
def OneName (call : Nat) (shared : Shared) (phase : Phase) (_ : Outcome) : Prop :=
  phase = .openingFile → ∀ directory, shared.artifact.working = some directory →
    ∀ file ∈ directory.files, file.1 = (chunk call).name

instance (call : Nat) (shared : Shared) (phase : Phase) (outcome : Outcome) :
    Decidable (OneName chunk call shared phase outcome) :=
  decidable_of_iff
    (phase = .openingFile → ∀ directory ∈ shared.artifact.working,
      ∀ file ∈ directory.files, file.1 = (chunk call).name)
    (by simp [OneName, Option.mem_def])

def FewFiles (artifact : Artifact) : Prop :=
  ∀ directory, artifact.working = some directory ∨ artifact.published = some directory →
    directory.files.length ≤ 1

theorem Directory.length_write (directory : Directory) (name : String) (position : Nat)
    (bytes : Bytes) :
    (directory.write name position bytes).files.length = directory.files.length := by
  have replaced : ∀ files : List (String × Bytes), (files.lookup name).isSome = true →
      ∀ new, (Directory.setFile name new files).length = files.length := by
    intro files
    induction files with
    | nil => nofun
    | cons file rest induction =>
        intro found new
        rw [Directory.setFile]
        split
        next => rfl
        next different =>
          rw [List.lookup_cons, beq_false_of_ne (Ne.symm different)] at found
          rw [List.length_cons, induction found, List.length_cons]
  rw [Directory.write]
  cases stored : directory.content name with
  | none => rfl
  | some content => exact replaced directory.files (by rw [← Directory.content, stored]; rfl) _

theorem Directory.length_create_le {directory : Directory} {name : String}
    (named : ∀ file ∈ directory.files, file.1 = name) (few : directory.files.length ≤ 1) :
    (directory.create name).files.length ≤ 1 := by
  rw [Directory.create]
  cases stored : directory.content name with
  | some bytes => exact few
  | none =>
      cases isFiles : directory.files with
      | nil => simp [Directory.set, Directory.setFile, isFiles]
      | cons file rest =>
          have same := named file (by rw [isFiles]; exact List.mem_cons_self)
          rw [Directory.content, isFiles, List.lookup_cons, same] at stored
          simp at stored

theorem fewFiles_of_acts {call : Nat} {shared next : Shared} {phase phaseNext : Phase}
    {outcome : Outcome} (few : FewFiles shared.artifact)
    (oneName : OneName chunk call shared phase outcome)
    (acts : Acts sum256 checksum chunk call shared phase outcome next phaseNext) :
    FewFiles next.artifact := by
  cases acts with
  | continues _ | readLocks _ _ | updatesState | readUnlocks _ _ | locks _ _ | validates _ _
  | deletesState | unlocks _ => exact few
  | createsDir =>
      intro directory there
      rcases there with working | published
      · cases stored : shared.artifact.working with
        | none =>
            simp only [Artifact.createDir, stored] at working
            cases working
            exact Nat.zero_le 1
        | some old =>
            simp only [Artifact.createDir, stored] at working
            cases working
            exact few old (.inl stored)
      · exact few directory (.inr published)
  | createsFile named =>
      intro directory there
      rcases there with working | published
      · rcases Option.map_eq_some_iff.mp working with ⟨old, stored, isNew⟩
        subst isNew
        exact Directory.length_create_le (oneName rfl old stored) (few old (.inl stored))
      · exact few directory (.inr published)
  | writes position count rest =>
      intro directory there
      rw [Artifact.write] at there
      split at there
      next old stored =>
        rcases there with working | published
        · exact few directory (.inl working)
        · cases published
          rw [Directory.length_write]
          exact few old (.inr stored)
      next absent =>
        rcases there with working | published
        · rcases Option.map_eq_some_iff.mp working with ⟨old, stored, isNew⟩
          subst isNew
          rw [Directory.length_write]
          exact few old (.inl stored)
        · exact few directory (.inr published)
  | renames renamed =>
      intro directory there
      rcases Artifact.rename_eq_some renamed with ⟨working, isNext⟩
      subst isNext
      rcases there with none | published
      · cases none
      · cases published
        exact few _ (.inl working)

/-! ## Every interleaving -/

variable (sum256 checksum chunk)

/-- The directory was moved right after the only file in it had been validated. -/
def MovedAsValidated (directory : Directory) (log : List Event) : Prop :=
  ∃ later call bytes earlier,
    log = later ++ Event.moved call directory ::
        Event.validated call (chunk call).name bytes :: earlier ∧
      directory.files = [((chunk call).name, bytes)] ∧ sum256 bytes = checksum

/-- The artifact is only there as a directory with the bytes that were validated, and
no steps that follow change it. -/
def ValidAndImmutable (system : System Nat Shared Phase) : Prop :=
  ∀ directory, system.shared.artifact.published = some directory →
    MovedAsValidated sum256 checksum chunk directory system.shared.log ∧
      ∀ labels final, Run.run (step sum256 checksum chunk) system labels = some final →
        final.shared.artifact.published = some directory

variable {sum256 checksum chunk}

theorem MovedAfterValidation.asValidated {directory : Directory} {log : List Event}
    (moved : MovedAfterValidation sum256 checksum chunk directory log)
    (few : directory.files.length ≤ 1) :
    MovedAsValidated sum256 checksum chunk directory log := by
  rcases moved with ⟨later, call, bytes, earlier, isLog, content, valid⟩
  refine ⟨later, call, bytes, earlier, isLog, ?_, valid⟩
  match isFiles : directory.files with
  | [] => simp [Directory.content, isFiles] at content
  | [file] =>
      rcases file with ⟨name, stored⟩
      simp only [Directory.content, isFiles, List.lookup_cons, List.lookup_nil] at content
      split at content
      next same =>
        simp only [beq_iff_eq] at same
        rw [same, Option.some.inj content]
      next => cases content
  | first :: second :: rest =>
      rw [isFiles] at few
      simp at few

/-- In every interleaving in which no file is created beside one of another name, a
published artifact is valid and immutable. -/
theorem published_artifacts_valid {labels : List (Nat × Outcome)}
    (oneName : Run.Along (step sum256 checksum chunk)
      (fun system label =>
        OneName chunk label.1 system.shared (system.phase label.1) label.2)
      initial labels) :
    Run.Always (step sum256 checksum chunk) (ValidAndImmutable sum256 checksum chunk) initial
      labels := by
  have preserved : ∀ state label next,
      Guarded sum256 checksum chunk state ∧ FewFiles state.shared.artifact →
        OneName chunk label.1 state.shared (state.phase label.1) label.2 →
          step sum256 checksum chunk state label = some next →
            Guarded sum256 checksum chunk next ∧ FewFiles next.shared.artifact := by
    intro state label next holds allowed stepped
    refine ⟨holds.1.step stepped, ?_⟩
    rcases step_eq_some.mp stepped with ⟨shared, phase, acted, isNext⟩
    subst isNext
    exact fewFiles_of_acts holds.2 allowed (acts_of_act sum256 checksum chunk acted)
  have none : FewFiles initial.shared.artifact := by
    intro directory there
    rcases there with working | published
    · cases working
    · cases published
  refine Run.always_of_along preserved ?_ ⟨guarded_initial sum256 checksum chunk, none⟩ oneName
  intro system holds directory published
  refine ⟨(holds.1.common.moved directory published).asValidated (holds.2 directory (.inr published)),
    ?_⟩
  intro labels final reached
  exact holds.1.published_run published reached

/-- A file of one byte, uploaded by the first call; the other calls upload another
byte under the given name. -/
def sampleChunk (other : String) (call : Nat) : UserArtifactChunk where
  name := if call = 0 then "a.zip" else other
  file := if call = 0 then [97] else [98]
  offsetBytes := 0
  sizeBytes := 1
  fileSizeBytes := 1

def sampleRun : List (Nat × Outcome) :=
  writesChunk 1 1 ++ [(1, Outcome.success), (1, .success), (1, .success), (1, .success)] ++
    writesChunk 0 1 ++ [(0, Outcome.success), (0, .success), (0, .success), (0, .success),
      (0, .success), (0, .success)]

theorem published_artifacts_valid_sample :
    (Run.run (step sampleSum (sampleSum [97]) (sampleChunk "a.zip")) initial sampleRun).map
        (fun system => system.shared.artifact.published) = some (some ⟨[("a.zip", [97])]⟩) ∧
      Run.Always (step sampleSum (sampleSum [97]) (sampleChunk "a.zip"))
        (ValidAndImmutable sampleSum (sampleSum [97]) (sampleChunk "a.zip")) initial sampleRun := by
  exact ⟨by decide +kernel, published_artifacts_valid (by decide +kernel)⟩

/-- A directory with a file that nobody validated is published. -/
theorem published_artifact_with_other_file :
    ¬ ∀ labels, Run.Always (step sampleSum (sampleSum [97]) (sampleChunk "b.zip"))
      (ValidAndImmutable sampleSum (sampleSum [97]) (sampleChunk "b.zip")) initial labels := by
  intro valid
  have published :
      (Run.run (step sampleSum (sampleSum [97]) (sampleChunk "b.zip")) initial sampleRun).map
        (fun system => system.shared.artifact.published) =
          some (some ⟨[("b.zip", [98]), ("a.zip", [97])]⟩) := by decide +kernel
  rcases Option.map_eq_some_iff.mp published with ⟨system, reached, isPublished⟩
  rcases ((valid sampleRun).final reached _ isPublished).1 with ⟨_, _, _, _, _, oneFile, _⟩
  exact absurd (congrArg List.length oneFile) (by simp)

end Cuttlefish.UserArtifacts
