import Cuttlefish.UserArtifacts.UpdateArtifact

/-! # Uploads that complete

When the calls that were accepted cover the whole file, the artifact has been moved to
`RootDir`, provided that the chunk state was made for the size of the file, that the
file is not empty and that no call spoiled it. -/

namespace Cuttlefish.UserArtifacts

open Processes

variable (sum256 : Bytes → String) (chunk : Nat → UserArtifactChunk) (content : Bytes)
  (name : String)

/-- The chunk is a part of the file `content`, which is uploaded as `name`. -/
structure Genuine (chunk : UserArtifactChunk) : Prop where
  named : chunk.name = name
  fileSize : chunk.fileSizeBytes.toInt = content.length
  size : chunk.sizeBytes.toInt = chunk.file.length
  offset : 0 ≤ chunk.offsetBytes.toInt
  part : chunk.file = content.readAt chunk.offsetBytes.toInt.toNat chunk.file.length

/-- The byte is in the range that the chunk says it has. -/
def Covers (chunk : UserArtifactChunk) (index : Nat) : Prop :=
  chunk.offsetBytes.toInt ≤ index ∧ (index : Int) < chunk.offsetBytes.toInt + chunk.sizeBytes.toInt

instance (chunk : UserArtifactChunk) (index : Nat) : Decidable (Covers chunk index) :=
  inferInstanceAs (Decidable (_ ∧ _))

/-- When genuine calls that were accepted cover the file, the artifact is there. -/
def Completed (system : System Nat Shared Phase) : Prop :=
  (∃ call, Genuine content name (chunk call) ∧ system.phase call = .returned none) →
    (∀ index < content.length, ∃ call, Genuine content name (chunk call) ∧
      system.phase call = .returned none ∧ Covers (chunk call) index) →
    system.shared.artifact.published.isSome = true

/-- The file that is uploaded, as far as it is there. -/
def Artifact.stored (artifact : Artifact) : Option Bytes := artifact.working.bind (·.content name)

/-- A write at `position` stays within the file and replaces no byte that is right by
one that is not. -/
def WritesRight (stored : Bytes) (position : Nat) (data : Bytes) : Prop :=
  ∀ index, position ≤ index → index < position + data.length →
    index < content.length ∧
      (stored[index]? = content[index]? → data[index - position]? = content[index]?)

/-- A write to the file does not spoil it, and the chunk state is made by a call that
knows the size of the file. -/
def Harmless (call : Nat) (shared : Shared) : Phase → Outcome → Prop
  | .copying position rest, .written count =>
      (chunk call).name = name → ∀ bytes, shared.artifact.stored name = some bytes →
        WritesRight content bytes position (rest.take count)
  | .updatingState, _ =>
      shared.artifact.chunkState = none → (chunk call).fileSizeBytes.toInt = content.length
  | _, _ => True

instance (stored : Bytes) (position : Nat) (data : Bytes) :
    Decidable (WritesRight content stored position data) :=
  decidable_of_iff
    (∀ count < data.length, position + count < content.length ∧
      (stored[position + count]? = content[position + count]? →
        data[count]? = content[position + count]?))
    (by
      constructor
      · intro right index after before
        have at_ := right (index - position) (by omega)
        rwa [Nat.add_sub_cancel' after] at at_
      · intro right count less
        have at_ := right (position + count) (by omega) (by omega)
        rwa [Nat.add_sub_cancel_left] at at_)

instance (call : Nat) (shared : Shared) (phase : Phase) (outcome : Outcome) :
    Decidable (Harmless chunk content name call shared phase outcome) :=
  match phase, outcome with
  | .copying position rest, .written count =>
      decidable_of_iff
        ((chunk call).name = name → ∀ bytes ∈ shared.artifact.stored name,
          WritesRight content bytes position (rest.take count))
        (by simp [Harmless, Option.mem_def])
  | .updatingState, _ => inferInstanceAs (Decidable (_ → _))
  | .copying _ _, .success | .copying _ _, .failure => isTrue trivial
  | .called, _ | .checkingExists, _ | .creatingDir, _ | .openingFile, _ | .testingCompleted, _
  | .readUnlocking _ _, _ | .locking, _ | .checkingExistsAgain, _ | .validating, _
  | .movingDir, _ | .deletingState, _ | .unlocking _, _ | .returned _, _ => isTrue trivial

/-! ## Parts of the file -/

section

variable {content name} {part : UserArtifactChunk}

theorem Genuine.fits (genuine : Genuine content name part) :
    part.file = [] ∨ part.offsetBytes.toInt + part.sizeBytes.toInt ≤ content.length := by
  have length := congrArg List.length genuine.part
  rw [Bytes.readAt_length] at length
  have offset := genuine.offset
  have size := genuine.size
  by_cases empty : part.file = []
  · exact .inl empty
  · have positive : 0 < part.file.length := List.length_pos_iff.mpr empty
    right
    omega

theorem Genuine.end_eq (genuine : Genuine content name part) :
    (part.offsetBytes + part.sizeBytes).toInt =
      part.offsetBytes.toInt + part.sizeBytes.toInt := by
  have size := genuine.size
  have fileSize := genuine.fileSize
  have offset := genuine.offset
  have bound := part.fileSizeBytes.toInt_lt
  have offsetBound := part.offsetBytes.toInt_lt
  have below : part.offsetBytes.toInt + part.sizeBytes.toInt < 9223372036854775808 := by
    rcases genuine.fits with empty | fits
    · rw [empty] at size
      simp only [List.length_nil] at size
      omega
    · omega
  rw [Int64.toInt_add, Int.bmod_eq_of_le]
  · omega
  · omega

theorem Genuine.getElem? (genuine : Genuine content name part) {index : Nat}
    (after : part.offsetBytes.toInt.toNat ≤ index)
    (before : index < part.offsetBytes.toInt.toNat + part.file.length) :
    part.file[index - part.offsetBytes.toInt.toNat]? = content[index]? := by
  rw [genuine.part, Bytes.readAt, List.getElem?_take_of_lt (by omega), List.getElem?_drop]
  congr 1
  omega

theorem Genuine.covers_iff (genuine : Genuine content name part) {index : Nat} :
    Covers part index ↔ part.offsetBytes.toInt.toNat ≤ index ∧
      index < part.offsetBytes.toInt.toNat + part.file.length := by
  have offset := genuine.offset
  have size := genuine.size
  rw [Covers]
  omega

end

/-! ## Progress of a call -/

namespace Phase

def hasWritten : Phase → Bool
  | .updatingState | .testingCompleted | .readUnlocking none _ | .locking | .checkingExistsAgain
  | .validating | .movingDir | .unlocking none | .returned none => true
  | _ => false

def hasUpdated : Phase → Bool
  | .testingCompleted | .readUnlocking none _ | .locking | .checkingExistsAgain
  | .validating | .movingDir | .unlocking none | .returned none => true
  | _ => false

/-- The call was accepted, or only has to unlock the mutex for that. -/
def isSettled : Phase → Bool
  | .readUnlocking none false | .unlocking none | .returned none => true
  | _ => false

end Phase

def Right (artifact : Artifact) (index : Nat) : Prop :=
  index < content.length ∧
    ∃ bytes, artifact.stored name = some bytes ∧ bytes[index]? = content[index]?

def Marked (artifact : Artifact) (index : Nat) : Prop :=
  ∃ state, artifact.chunkState = some state ∧ state.Updated index

structure Unspoiled (artifact : Artifact) : Prop where
  short : artifact.published = none → ∀ bytes, artifact.stored name = some bytes →
    bytes.length ≤ content.length
  state : artifact.published = none → ∀ state, artifact.chunkState = some state →
    state.Valid ∧ state.fileSize = content.length

structure Progress (call : Nat) (artifact : Artifact) (phase : Phase) : Prop where
  opens : phase = .openingFile → artifact.published = none → artifact.working.isSome = true
  copies : ∀ position rest, phase = .copying position rest →
    Genuine content name (chunk call) → artifact.published = none →
      (artifact.stored name).isSome = true ∧ ∃ done, (chunk call).file = done ++ rest ∧
        position = (chunk call).offsetBytes.toInt.toNat + done.length ∧
        ∀ index, (chunk call).offsetBytes.toInt.toNat ≤ index → index < position →
          Right content name artifact index
  wrote : phase.hasWritten = true → Genuine content name (chunk call) →
    artifact.published = none → ∀ index, Covers (chunk call) index →
      Right content name artifact index
  updated : phase.hasUpdated = true → Genuine content name (chunk call) →
    artifact.published = none → ∀ index, Covers (chunk call) index → Marked artifact index
  deletes : phase = .deletingState → artifact.published.isSome = true
  refused : ∀ error mayMoveArtifact, phase = .readUnlocking (some error) mayMoveArtifact →
    mayMoveArtifact = false

/-- What a step may take away from the other calls: nothing, unless the artifact gets
published. -/
structure Keeps (artifact next : Artifact) : Prop where
  published : artifact.published.isSome = true → next.published.isSome = true
  working : next.published = none → artifact.working.isSome = true → next.working.isSome = true
  stored : next.published = none → (artifact.stored name).isSome = true →
    (next.stored name).isSome = true
  right : next.published = none → ∀ index, Right content name artifact index →
    Right content name next index
  marked : next.published = none → ∀ index, Marked artifact index → Marked next index

section

variable {chunk content name} {call : Nat} {artifact next : Artifact} {phase : Phase}

theorem Keeps.refl (artifact : Artifact) : Keeps content name artifact artifact where
  published := id
  working _ := id
  stored _ := id
  right _ _ := id
  marked _ _ := id

theorem Keeps.unpublished (keeps : Keeps content name artifact next)
    (unpublished : next.published = none) : artifact.published = none := by
  cases published : artifact.published with
  | none => rfl
  | some directory =>
      have there := keeps.published (by rw [published]; rfl)
      rw [unpublished] at there
      cases there

theorem Progress.frame (progress : Progress chunk content name call artifact phase)
    (keeps : Keeps content name artifact next) : Progress chunk content name call next phase where
  opens isPhase unpublished :=
    keeps.working unpublished (progress.opens isPhase (keeps.unpublished unpublished))
  copies := by
    intro position rest isPhase genuine unpublished
    rcases progress.copies position rest isPhase genuine (keeps.unpublished unpublished) with
      ⟨stored, done, split, isPosition, right⟩
    exact ⟨keeps.stored unpublished stored, done, split, isPosition, fun index after before =>
      keeps.right unpublished index (right index after before)⟩
  wrote isPhase genuine unpublished index covers :=
    keeps.right unpublished index
      (progress.wrote isPhase genuine (keeps.unpublished unpublished) index covers)
  updated isPhase genuine unpublished index covers :=
    keeps.marked unpublished index
      (progress.updated isPhase genuine (keeps.unpublished unpublished) index covers)
  deletes isPhase := keeps.published (progress.deletes isPhase)
  refused := progress.refused

/-! ## What the operations keep -/

theorem stored_createFile_self (artifact : Artifact) (name : String) :
    (artifact.createFile name).stored name =
      artifact.working.map fun directory => (directory.content name).getD [] := by
  rw [Artifact.createFile, Artifact.stored]
  cases artifact.working with
  | none => rfl
  | some directory => exact directory.content_create_self name

theorem stored_createFile_of_ne (artifact : Artifact) {name other : String}
    (different : name ≠ other) :
    (artifact.createFile other).stored name = artifact.stored name := by
  unfold Artifact.createFile Artifact.stored
  cases artifact.working with
  | none => rfl
  | some directory => exact directory.content_create_of_ne different

theorem stored_write_self {artifact : Artifact} (unpublished : artifact.published = none)
    (name : String) (position : Nat) (data : Bytes) :
    (artifact.write name position data).stored name =
      (artifact.stored name).map (·.writeAt position data) := by
  simp only [Artifact.write, unpublished, Artifact.stored]
  cases artifact.working with
  | none => rfl
  | some directory => exact directory.content_write_self name position data

theorem stored_write_of_ne {artifact : Artifact} (unpublished : artifact.published = none)
    {name other : String} (different : name ≠ other) (position : Nat) (data : Bytes) :
    (artifact.write other position data).stored name = artifact.stored name := by
  simp only [Artifact.write, unpublished, Artifact.stored]
  cases artifact.working with
  | none => rfl
  | some directory => exact directory.content_write_of_ne different position data

theorem published_write (artifact : Artifact) (name : String) (position : Nat) (data : Bytes) :
    (artifact.write name position data).published.isSome = artifact.published.isSome := by
  rw [Artifact.write]
  cases published : artifact.published with
  | none => rfl
  | some directory => rfl

theorem unpublished_of_write {name : String} {position : Nat} {data : Bytes}
    (unpublished : (artifact.write name position data).published = none) :
    artifact.published = none := by
  have same := published_write artifact name position data
  rw [unpublished] at same
  simpa using same.symm

theorem Right.of_stored {index : Nat} (right : Right content name artifact index)
    (same : next.stored name = artifact.stored name) : Right content name next index := by
  rcases right with ⟨inside, bytes, stored, equal⟩
  exact ⟨inside, bytes, same.trans stored, equal⟩

theorem WritesRight.getElem? {stored data : Bytes} {position index : Nat}
    (writes : WritesRight content stored position data) (inside : index < content.length)
    (right : stored[index]? = content[index]?) :
    (stored.writeAt position data)[index]? = content[index]? := by
  by_cases within : position ≤ index ∧ index < position + data.length
  · rw [Bytes.getElem?_writeAt_inside stored data within.1 within.2]
    exact (writes index within.1 within.2).2 right
  · have present : index < stored.length := by
      rw [List.getElem?_eq_getElem inside] at right
      exact (List.getElem?_eq_some_iff.mp right).1
    rw [Bytes.getElem?_writeAt_outside stored data (by omega) present, right]

theorem WritesRight.length_le {stored data : Bytes} {position : Nat}
    (writes : WritesRight content stored position data) (short : stored.length ≤ content.length) :
    (stored.writeAt position data).length ≤ content.length := by
  by_cases empty : data = []
  · simpa [empty, Bytes.writeAt] using short
  · have positive : 0 < data.length := List.length_pos_iff.mpr empty
    have last := (writes (position + data.length - 1) (by omega) (by omega)).1
    rw [Bytes.length_writeAt_of_ne_nil _ _ empty]
    omega

theorem keeps_createDir (artifact : Artifact) : Keeps content name artifact artifact.createDir := by
  have stored : ∀ bytes, artifact.stored name = some bytes →
      artifact.createDir.stored name = some bytes := by
    intro bytes isStored
    rcases Option.bind_eq_some_iff.mp isStored with ⟨directory, working, isContent⟩
    simp [Artifact.createDir, Artifact.stored, working, isContent]
  refine ⟨id, fun _ _ => rfl, fun _ present => ?_, fun _ index right => ?_, fun _ _ => id⟩
  · rcases Option.isSome_iff_exists.mp present with ⟨bytes, isStored⟩
    rw [stored bytes isStored]
    rfl
  · rcases right with ⟨inside, bytes, isStored, equal⟩
    exact ⟨inside, bytes, stored bytes isStored, equal⟩

theorem keeps_createFile (artifact : Artifact) (other : String) :
    Keeps content name artifact (artifact.createFile other) := by
  have stored : ∀ bytes, artifact.stored name = some bytes →
      (artifact.createFile other).stored name = some bytes := by
    intro bytes isStored
    by_cases same : name = other
    · subst same
      rcases Option.bind_eq_some_iff.mp isStored with ⟨directory, working, isContent⟩
      rw [stored_createFile_self, working, Option.map_some, isContent]
      rfl
    · rw [stored_createFile_of_ne artifact same]
      exact isStored
  refine ⟨id, fun _ present => ?_, fun _ present => ?_, fun _ index right => ?_, fun _ _ => id⟩
  · simpa [Artifact.createFile] using present
  · rcases Option.isSome_iff_exists.mp present with ⟨bytes, isStored⟩
    rw [stored bytes isStored]
    rfl
  · rcases right with ⟨inside, bytes, isStored, equal⟩
    exact ⟨inside, bytes, stored bytes isStored, equal⟩

theorem keeps_write (artifact : Artifact) (other : String) (position : Nat) (data : Bytes)
    (harmless : other = name → ∀ bytes, artifact.stored name = some bytes →
      WritesRight content bytes position data) :
    Keeps content name artifact (artifact.write other position data) := by
  refine ⟨fun there => (published_write artifact other position data).trans there, ?_, ?_, ?_, ?_⟩
  · intro unpublished present
    simpa [Artifact.write, unpublished_of_write unpublished] using present
  · intro unpublished present
    by_cases same : name = other
    · subst same
      rw [stored_write_self (unpublished_of_write unpublished), Option.isSome_map]
      exact present
    · rw [stored_write_of_ne (unpublished_of_write unpublished) same]
      exact present
  · intro unpublished index right
    by_cases same : name = other
    · subst same
      rcases right with ⟨inside, bytes, isStored, equal⟩
      refine ⟨inside, bytes.writeAt position data, ?_, ?_⟩
      · rw [stored_write_self (unpublished_of_write unpublished), isStored]
        rfl
      · exact (harmless rfl bytes isStored).getElem? inside equal
    · exact right.of_stored (stored_write_of_ne (unpublished_of_write unpublished) same position data)
  · intro unpublished index marked
    simpa [Marked, Artifact.write, unpublished_of_write unpublished] using marked

theorem keeps_of_published (published : artifact.published.isSome = true)
    (same : next.published = artifact.published) : Keeps content name artifact next := by
  have notNone : next.published ≠ none := by
    rw [same]
    exact Option.isSome_iff_ne_none.mp published
  refine ⟨fun there => by rw [same]; exact there, ?_, ?_, ?_, ?_⟩
  all_goals exact fun none => absurd none notNone

/-! ## Updates of the chunk state -/

def Artifact.chunkStateFor (artifact : Artifact) (part : UserArtifactChunk) : ChunkState :=
  artifact.chunkState.getD (ChunkState.new part.fileSizeBytes.toInt)

theorem updateState_spec (artifact : Artifact) (part : UserArtifactChunk)
    (valid : (artifact.chunkStateFor part).Valid) :
    (updateState part artifact.chunkState).Valid ∧
      (updateState part artifact.chunkState).fileSize = (artifact.chunkStateFor part).fileSize ∧
      (∀ offset, (artifact.chunkStateFor part).Updated offset →
        (updateState part artifact.chunkState).Updated offset) ∧
      ∀ offset, 0 ≤ part.offsetBytes.toInt →
        (part.offsetBytes + part.sizeBytes).toInt ≤ (artifact.chunkStateFor part).fileSize →
        part.offsetBytes.toInt ≤ offset → offset < (part.offsetBytes + part.sizeBytes).toInt →
          (updateState part artifact.chunkState).Updated offset := by
  unfold updateState
  rw [← Artifact.chunkStateFor]
  dsimp only
  cases updates : (artifact.chunkStateFor part).update part.offsetBytes.toInt
      (part.offsetBytes + part.sizeBytes).toInt with
  | error message =>
      refine ⟨valid, rfl, fun _ => id, ?_⟩
      intro offset nonneg fits after before
      rw [ChunkState.update_eq_ok.mpr ⟨nonneg, fits, by omega, rfl⟩] at updates
      cases updates
  | ok next =>
      rcases ChunkState.update_eq_ok.mp updates with ⟨nonneg, fits, less, isNext⟩
      refine ⟨valid.update updates, by rw [isNext], ?_, ?_⟩
      · intro offset old
        rw [isNext]
        exact (ChunkState.updated_markUpdated valid less offset).mpr (.inr old)
      · intro offset _ _ after before
        rw [isNext]
        exact (ChunkState.updated_markUpdated valid less offset).mpr (.inl ⟨after, before⟩)

theorem Unspoiled.chunkStateFor (unspoiled : Unspoiled content name artifact)
    (unpublished : artifact.published = none) {part : UserArtifactChunk}
    (known : artifact.chunkState = none → part.fileSizeBytes.toInt = content.length) :
    (artifact.chunkStateFor part).Valid ∧
      (artifact.chunkStateFor part).fileSize = content.length := by
  rw [Artifact.chunkStateFor]
  cases isState : artifact.chunkState with
  | none => exact ⟨ChunkState.valid_new _, known isState⟩
  | some state => exact unspoiled.state unpublished state isState

theorem keeps_updateChunkState (unspoiled : Unspoiled content name artifact)
    (part : UserArtifactChunk)
    (known : artifact.chunkState = none → part.fileSizeBytes.toInt = content.length) :
    Keeps content name artifact (artifact.updateChunkState part) := by
  refine ⟨id, fun _ => id, fun _ => id, fun _ index right => right.of_stored rfl, ?_⟩
  rintro unpublished index ⟨state, isState, updated⟩
  have spec := updateState_spec artifact part (unspoiled.chunkStateFor unpublished known).1
  refine ⟨_, rfl, spec.2.2.1 index ?_⟩
  rw [Artifact.chunkStateFor, isState]
  exact updated

end

/-! ## Steps -/

section

variable {sum256 chunk content name} {call : Nat} {shared next : Shared}
  {phase phaseNext : Phase} {outcome : Outcome}

theorem keeps_of_acts (unspoiled : Unspoiled content name shared.artifact)
    (progress : Progress chunk content name call shared.artifact phase)
    (harmless : Harmless chunk content name call shared phase outcome)
    (acts : Acts sum256 (sum256 content) chunk call shared phase outcome next phaseNext) :
    Keeps content name shared.artifact next.artifact := by
  cases acts with
  | continues _ | readLocks _ _ | readUnlocks _ _ | locks _ _ | validates _ _ | unlocks _ =>
      exact Keeps.refl shared.artifact
  | createsDir => exact keeps_createDir shared.artifact
  | createsFile _ => exact keeps_createFile shared.artifact _
  | writes position count rest => exact keeps_write shared.artifact _ position _ harmless
  | updatesState => exact keeps_updateChunkState unspoiled _ harmless
  | renames renamed =>
      rcases Artifact.rename_eq_some renamed with ⟨-, isNext⟩
      subst isNext
      exact ⟨fun _ => rfl, nofun, nofun, nofun, nofun⟩
  | deletesState => exact keeps_of_published (progress.deletes rfl) rfl

theorem unspoiled_of_acts (unspoiled : Unspoiled content name shared.artifact)
    (progress : Progress chunk content name call shared.artifact phase)
    (harmless : Harmless chunk content name call shared phase outcome)
    (acts : Acts sum256 (sum256 content) chunk call shared phase outcome next phaseNext) :
    Unspoiled content name next.artifact := by
  cases acts with
  | continues _ | readLocks _ _ | readUnlocks _ _ | locks _ _ | validates _ _ | unlocks _ =>
      exact unspoiled
  | createsDir =>
      refine ⟨?_, unspoiled.state⟩
      intro unpublished bytes isStored
      cases working : shared.artifact.working with
      | none => simp [Artifact.createDir, Artifact.stored, working, Directory.empty,
          Directory.content] at isStored
      | some directory =>
          apply unspoiled.short unpublished bytes
          simpa [Artifact.createDir, Artifact.stored, working] using isStored
  | createsFile _ =>
      refine ⟨?_, unspoiled.state⟩
      intro unpublished bytes isStored
      by_cases same : name = (chunk call).name
      · subst same
        rw [stored_createFile_self] at isStored
        rcases Option.map_eq_some_iff.mp isStored with ⟨directory, working, isBytes⟩
        cases isContent : directory.content (chunk call).name with
        | none =>
            rw [← isBytes, isContent]
            exact Nat.zero_le _
        | some old =>
            rw [← isBytes, isContent]
            apply unspoiled.short unpublished old
            simp [Artifact.stored, working, isContent]
      · rw [stored_createFile_of_ne _ same] at isStored
        exact unspoiled.short unpublished bytes isStored
  | writes position count rest =>
      refine ⟨fun unpublished bytes isStored => ?_, fun unpublished state isState => ?_⟩
      · have before := unpublished_of_write unpublished
        by_cases same : name = (chunk call).name
        · subst same
          rw [stored_write_self before] at isStored
          rcases Option.map_eq_some_iff.mp isStored with ⟨old, wasStored, isBytes⟩
          rw [← isBytes]
          exact (harmless rfl old wasStored).length_le (unspoiled.short before old wasStored)
        · rw [stored_write_of_ne before same] at isStored
          exact unspoiled.short before bytes isStored
      · have before := unpublished_of_write unpublished
        apply unspoiled.state before state
        simpa [Artifact.write, before] using isState
  | updatesState =>
      refine ⟨unspoiled.short, ?_⟩
      intro unpublished state isState
      have base := unspoiled.chunkStateFor unpublished harmless
      have spec := updateState_spec shared.artifact (chunk call) base.1
      cases isState
      exact ⟨spec.1, spec.2.1.trans base.2⟩
  | renames renamed =>
      rcases Artifact.rename_eq_some renamed with ⟨-, isNext⟩
      subst isNext
      exact ⟨nofun, nofun⟩
  | deletesState =>
      have published : shared.artifact.published ≠ none :=
        Option.isSome_iff_ne_none.mp (progress.deletes rfl)
      exact ⟨fun unpublished => absurd unpublished published,
        fun unpublished => absurd unpublished published⟩

theorem Progress.of_idle {artifact : Artifact} (notOpening : phase ≠ .openingFile)
    (notCopying : ∀ position rest, phase ≠ .copying position rest)
    (notWritten : phase.hasWritten = false) (notUpdated : phase.hasUpdated = false)
    (notDeleting : phase ≠ .deletingState)
    (refused : ∀ error mayMoveArtifact, phase = .readUnlocking (some error) mayMoveArtifact →
      mayMoveArtifact = false) : Progress chunk content name call artifact phase where
  opens isPhase := absurd isPhase notOpening
  copies position rest isPhase := absurd isPhase (notCopying position rest)
  wrote isPhase := by
    rw [notWritten] at isPhase
    cases isPhase
  updated isPhase := by
    rw [notUpdated] at isPhase
    cases isPhase
  deletes isPhase := absurd isPhase notDeleting
  refused := refused

theorem Progress.of_hasUpdated {artifact : Artifact}
    (progress : Progress chunk content name call artifact phase)
    (wasWritten : phase.hasWritten = true) (wasUpdated : phase.hasUpdated = true)
    (notOpening : phaseNext ≠ .openingFile)
    (notCopying : ∀ position rest, phaseNext ≠ .copying position rest)
    (notDeleting : phaseNext ≠ .deletingState)
    (notRefused : ∀ error mayMoveArtifact, phaseNext ≠ .readUnlocking (some error) mayMoveArtifact) :
    Progress chunk content name call artifact phaseNext where
  opens isPhase := absurd isPhase notOpening
  copies position rest isPhase := absurd isPhase (notCopying position rest)
  wrote _ := progress.wrote wasWritten
  updated _ := progress.updated wasUpdated
  deletes isPhase := absurd isPhase notDeleting
  refused error mayMoveArtifact isPhase := absurd isPhase (notRefused error mayMoveArtifact)

theorem Progress.copied {artifact : Artifact} {position : Nat}
    (progress : Progress chunk content name call artifact (.copying position [])) :
    Progress chunk content name call artifact .updatingState where
  opens := nofun
  copies := nofun
  wrote := by
    intro _ genuine unpublished index covers
    rcases progress.copies position [] rfl genuine unpublished with ⟨-, done, split, isPosition, right⟩
    rcases genuine.covers_iff.mp covers with ⟨after, before⟩
    rw [split, List.append_nil] at before
    exact right index after (by omega)
  updated := nofun
  deletes := nofun
  refused := nofun

theorem Progress.continues (progress : Progress chunk content name call shared.artifact phase)
    (quiet : Continues sum256 (sum256 content) chunk call shared phase phaseNext) :
    Progress chunk content name call shared.artifact phaseNext := by
  cases quiet with
  | rejected _ | absent _ => exact .of_idle nofun nofun rfl rfl nofun nofun
  | conflict error | dirFails error | openFails error | copyFails _ _ error =>
      exact .of_idle nofun nofun rfl rfl nofun (by simp)
  | checkFails error | validationFails error | renameFails error =>
      exact .of_idle nofun nofun rfl rfl nofun nofun
  | copied position => exact progress.copied
  | tested | present _ | absentAgain _ | mismatch _ _ =>
      exact progress.of_hasUpdated rfl rfl nofun nofun nofun nofun

theorem Progress.writes {artifact : Artifact} {position : Nat} {rest : Bytes} (count : Nat)
    (progress : Progress chunk content name call artifact (.copying position rest))
    (keeps : Keeps content name artifact
      (artifact.write (chunk call).name position (rest.take count))) :
    Progress chunk content name call
      (artifact.write (chunk call).name position (rest.take count))
      (.copying (position + (rest.take count).length) (rest.drop count)) where
  opens := nofun
  copies := by
    intro next left isPhase genuine unpublished
    cases isPhase
    have before := unpublished_of_write unpublished
    rcases progress.copies position rest rfl genuine before with
      ⟨stored, done, split, isPosition, right⟩
    refine ⟨keeps.stored unpublished stored, done ++ rest.take count, ?_, ?_, ?_⟩
    · rw [List.append_assoc, List.take_append_drop]
      exact split
    · rw [isPosition, List.length_append]
      omega
    · intro index after less
      by_cases old : index < position
      · exact keeps.right unpublished index (right index after old)
      · rcases Option.isSome_iff_exists.mp stored with ⟨bytes, isStored⟩
        have length := congrArg List.length split
        have taken : (rest.take count).length = min count rest.length := List.length_take
        rw [List.length_append] at length
        have size := genuine.size
        have inFile : index < (chunk call).offsetBytes.toInt.toNat + (chunk call).file.length := by
          omega
        have inside : index < content.length := by
          have offset := genuine.offset
          rcases genuine.fits with empty | fits
          · rw [empty] at inFile
            simp only [List.length_nil] at inFile
            omega
          · omega
        refine ⟨inside, bytes.writeAt position (rest.take count), ?_, ?_⟩
        · rw [← genuine.named, stored_write_self before, genuine.named, isStored]
          rfl
        · rw [Bytes.getElem?_writeAt_inside _ _ (by omega) (by omega),
            ← genuine.getElem? after inFile, split,
            List.getElem?_take_of_lt (by omega), List.getElem?_append_right (by omega)]
          congr 1
          omega
  wrote := nofun
  updated := nofun
  deletes := nofun
  refused := nofun

theorem Progress.updatesState {artifact : Artifact}
    (unspoiled : Unspoiled content name artifact)
    (progress : Progress chunk content name call artifact .updatingState)
    (known : artifact.chunkState = none →
      (chunk call).fileSizeBytes.toInt = content.length) :
    Progress chunk content name call (artifact.updateChunkState (chunk call))
      .testingCompleted where
  opens := nofun
  copies := nofun
  wrote _ genuine unpublished index covers :=
    (progress.wrote rfl genuine unpublished index covers).of_stored rfl
  updated := by
    intro _ genuine unpublished index covers
    have base := unspoiled.chunkStateFor unpublished known
    have spec := updateState_spec artifact (chunk call) base.1
    have range := covers
    rw [Covers] at range
    have fits : (chunk call).offsetBytes.toInt + (chunk call).sizeBytes.toInt ≤ content.length := by
      rcases genuine.fits with empty | fits
      · have size := genuine.size
        rw [empty] at size
        simp only [List.length_nil] at size
        omega
      · exact fits
    refine ⟨_, rfl, spec.2.2.2 index genuine.offset ?_ range.1 ?_⟩
    · rw [genuine.end_eq, base.2]
      exact fits
    · rw [genuine.end_eq]
      exact range.2
  deletes := nofun
  refused := nofun

theorem progress_of_acts (unspoiled : Unspoiled content name shared.artifact)
    (progress : Progress chunk content name call shared.artifact phase)
    (harmless : Harmless chunk content name call shared phase outcome)
    (acts : Acts sum256 (sum256 content) chunk call shared phase outcome next phaseNext) :
    Progress chunk content name call next.artifact phaseNext := by
  have keeps := keeps_of_acts unspoiled progress harmless acts
  cases acts with
  | continues quiet => exact progress.continues quiet
  | readLocks _ _ => exact .of_idle nofun nofun rfl rfl nofun nofun
  | createsDir => exact ⟨fun _ _ => rfl, nofun, nofun, nofun, nofun, nofun⟩
  | createsFile _ =>
      refine ⟨nofun, ?_, nofun, nofun, nofun, nofun⟩
      intro position rest isPhase genuine unpublished
      cases isPhase
      have working := progress.opens rfl unpublished
      refine ⟨?_, [], rfl, rfl, fun index after before => by omega⟩
      rw [genuine.named, stored_createFile_self, Option.isSome_map]
      exact working
  | writes position count rest => exact progress.writes count keeps
  | updatesState => exact progress.updatesState unspoiled harmless
  | readUnlocks error mayMoveArtifact =>
      cases error with
      | none =>
          cases mayMoveArtifact with
          | true => exact progress.of_hasUpdated rfl rfl nofun nofun nofun nofun
          | false => exact progress.of_hasUpdated rfl rfl nofun nofun nofun nofun
      | some error =>
          rw [progress.refused error mayMoveArtifact rfl]
          exact .of_idle nofun nofun rfl rfl nofun nofun
  | locks _ _ | validates _ _ => exact progress.of_hasUpdated rfl rfl nofun nofun nofun nofun
  | renames renamed =>
      rcases Artifact.rename_eq_some renamed with ⟨-, isNext⟩
      subst isNext
      exact ⟨nofun, nofun, nofun, nofun, fun _ => rfl, nofun⟩
  | deletesState =>
      have published : shared.artifact.published ≠ none :=
        Option.isSome_iff_ne_none.mp (progress.deletes rfl)
      exact ⟨nofun, nofun, fun _ _ unpublished => absurd unpublished published,
        fun _ _ unpublished => absurd unpublished published, nofun, nofun⟩
  | unlocks error =>
      cases error with
      | none => exact progress.of_hasUpdated rfl rfl nofun nofun nofun nofun
      | some error => exact .of_idle nofun nofun rfl rfl nofun nofun

end

/-! ## Every interleaving -/

abbrev Healthy : System Nat Shared Phase → Prop :=
  Everywhere (fun shared => Unspoiled content name shared.artifact)
    (fun call shared phase => Progress chunk content name call shared.artifact phase)

def SomeMissing (system : System Nat Shared Phase) : Prop :=
  system.shared.artifact.published = none →
    ∃ index < content.length, ∀ call, Genuine content name (chunk call) →
      (system.phase call).isSettled = true → ¬ Covers (chunk call) index

section

variable {sum256 chunk content name} {system next : System Nat Shared Phase}

theorem healthy_initial : Healthy chunk content name initial where
  common := ⟨nofun, nofun⟩
  own _ := .of_idle nofun nofun rfl rfl nofun nofun

theorem preserves_healthy :
    Preserves (act sum256 (sum256 content) chunk) (Harmless chunk content name)
      (fun shared => Unspoiled content name shared.artifact)
      (fun call shared phase => Progress chunk content name call shared.artifact phase) := by
  intro call shared phase outcome next phaseNext unspoiled progress harmless acted
  have acts := acts_of_act sum256 (sum256 content) chunk acted
  have keeps := keeps_of_acts unspoiled progress harmless acts
  exact ⟨unspoiled_of_acts unspoiled progress harmless acts,
    progress_of_acts unspoiled progress harmless acts,
    fun other otherPhase _ otherProgress => otherProgress.frame keeps⟩

theorem Phase.hasUpdated_of_isSettled {phase : Phase} (settled : phase.isSettled = true) :
    phase.hasWritten = true ∧ phase.hasUpdated = true := by
  unfold Phase.isSettled at settled
  split at settled
  · exact ⟨rfl, rfl⟩
  · exact ⟨rfl, rfl⟩
  · exact ⟨rfl, rfl⟩
  · cases settled

theorem exists_not_marked {artifact : Artifact} (unspoiled : Unspoiled content name artifact)
    (unpublished : artifact.published = none) (nonempty : content ≠ [])
    (incomplete : artifact.chunkState.any ChunkState.isCompleted = false) :
    ∃ index < content.length, ¬ Marked artifact index := by
  have positive : 0 < content.length := List.length_pos_iff.mpr nonempty
  cases isState : artifact.chunkState with
  | none =>
      refine ⟨0, positive, ?_⟩
      rintro ⟨state, found, -⟩
      rw [isState] at found
      cases found
  | some state =>
      rcases unspoiled.state unpublished state isState with ⟨valid, size⟩
      have notCompleted : ¬ state.isCompleted = true := by simpa [isState] using incomplete
      rw [ChunkState.isCompleted_iff valid, size] at notCompleted
      by_contra all
      apply notCompleted
      refine ⟨by omega, ?_⟩
      intro offset nonneg less
      by_contra notUpdated
      apply all
      refine ⟨offset.toNat, by omega, ?_⟩
      rintro ⟨found, isFound, updated⟩
      rw [isState] at isFound
      cases isFound
      rw [Int.toNat_of_nonneg nonneg] at updated
      exact notUpdated updated

theorem exists_not_right {artifact : Artifact} (unspoiled : Unspoiled content name artifact)
    (unpublished : artifact.published = none) {bytes : Bytes}
    (stored : artifact.stored name = some bytes) (differs : bytes ≠ content) :
    ∃ index < content.length, ¬ Right content name artifact index := by
  have short := unspoiled.short unpublished bytes stored
  by_contra all
  apply differs
  apply List.ext_getElem?
  intro index
  by_cases inside : index < content.length
  · by_contra notEqual
    apply all
    refine ⟨index, inside, ?_⟩
    rintro ⟨-, found, isFound, equal⟩
    rw [stored] at isFound
    cases isFound
    exact notEqual equal
  · rw [List.getElem?_eq_none (by omega), List.getElem?_eq_none (by omega)]

theorem settles_cases {call : Nat} {shared sharedNext : Shared} {phase phaseNext : Phase}
    {outcome : Outcome} (progress : Progress chunk content name call shared.artifact phase)
    (acts : Acts sum256 (sum256 content) chunk call shared phase outcome sharedNext phaseNext)
    (unpublished : sharedNext.artifact.published = none)
    (settled : phaseNext.isSettled = true) :
    phase.isSettled = true ∨ sharedNext = shared ∧
      (phase = .testingCompleted ∧
          shared.artifact.chunkState.any ChunkState.isCompleted = false ∨
        phase = .validating ∧ ∃ bytes,
          shared.artifact.working.bind (·.content (chunk call).name) = some bytes ∧
            validateChecksum sum256 (sum256 content) (chunk call) bytes = false) := by
  cases acts with
  | continues quiet =>
      cases quiet with
      | rejected _ | conflict _ | absent _ | dirFails _ | openFails _ | copyFails _ _ _ | copied _
      | absentAgain _ | checkFails _ | validationFails _ | renameFails _ => cases settled
      | tested =>
          right
          refine ⟨rfl, .inl ⟨rfl, ?_⟩⟩
          cases isCompleted : shared.artifact.chunkState.any ChunkState.isCompleted with
          | false => rfl
          | true =>
              rw [isCompleted] at settled
              cases settled
      | present published =>
          rw [unpublished] at published
          cases published
      | mismatch stored differs => exact .inr ⟨rfl, .inr ⟨rfl, _, stored, differs⟩⟩
  | readLocks _ _ | createsDir | createsFile _ | writes _ _ _ | updatesState | locks _ _
  | validates _ _ | renames _ => cases settled
  | readUnlocks error mayMoveArtifact =>
      left
      cases error with
      | none =>
          cases mayMoveArtifact with
          | true => cases settled
          | false => rfl
      | some error =>
          rw [progress.refused error mayMoveArtifact rfl] at settled
          cases settled
  | deletesState =>
      have published := progress.deletes rfl
      rw [show shared.artifact.published = none from unpublished] at published
      cases published
  | unlocks error =>
      left
      cases error with
      | none => rfl
      | some error => cases settled

theorem missing_of_byte (healthy : Healthy chunk content name system)
    (unpublished : system.shared.artifact.published = none) {index : Nat}
    (open_ : ¬ Marked system.shared.artifact index ∨
      ¬ Right content name system.shared.artifact index) {call : Nat}
    (genuine : Genuine content name (chunk call))
    (done : (system.phase call).hasWritten = true ∧ (system.phase call).hasUpdated = true) :
    ¬ Covers (chunk call) index := by
  intro covers
  rcases open_ with notMarked | notRight
  · exact notMarked ((healthy.own call).updated done.2 genuine unpublished index covers)
  · exact notRight ((healthy.own call).wrote done.1 genuine unpublished index covers)

theorem SomeMissing.step (nonempty : content ≠ []) (healthy : Healthy chunk content name system)
    (missing : SomeMissing chunk content name system) {label : Nat × Outcome}
    (harmless : Harmless chunk content name label.1 system.shared (system.phase label.1) label.2)
    (stepped : step sum256 (sum256 content) chunk system label = some next) :
    SomeMissing chunk content name next := by
  rcases step_eq_some.mp stepped with ⟨shared, phase, acted, isNext⟩
  subst isNext
  intro unpublished
  have acts := acts_of_act sum256 (sum256 content) chunk acted
  have keeps := keeps_of_acts healthy.common (healthy.own label.1) harmless acts
  have before := keeps.unpublished unpublished
  -- A byte that is still open also is one for the call that acts, if it gets settled.
  have fresh : (system.phase label.1).hasWritten = true ∧
      (system.phase label.1).hasUpdated = true →
      (∃ index < content.length, ¬ Marked system.shared.artifact index ∨
        ¬ Right content name system.shared.artifact index) →
      ∃ index < content.length, ∀ call, Genuine content name (chunk call) →
        ((system.after label.1 shared phase).phase call).isSettled = true →
          ¬ Covers (chunk call) index := by
    rintro done ⟨index, inside, isOpen⟩
    refine ⟨index, inside, fun call genuine settled => ?_⟩
    apply missing_of_byte healthy before isOpen genuine
    by_cases same : call = label.1
    · rw [same]
      exact done
    · rw [System.after_phase_of_ne system same] at settled
      exact Phase.hasUpdated_of_isSettled settled
  by_cases newly : Genuine content name (chunk label.1) ∧ phase.isSettled = true ∧
      (system.phase label.1).isSettled = false
  · rcases newly with ⟨genuine, settled, notYet⟩
    rcases settles_cases (healthy.own label.1) acts unpublished settled with
      already | ⟨-, ⟨testing, incomplete⟩ | ⟨validating, bytes, stored, differs⟩⟩
    · rw [already] at notYet
      cases notYet
    · rcases exists_not_marked healthy.common before nonempty incomplete with
        ⟨index, inside, notMarked⟩
      exact fresh (by rw [testing]; exact ⟨rfl, rfl⟩) ⟨index, inside, .inl notMarked⟩
    · rw [genuine.named] at stored
      have notContent : bytes ≠ content := by
        intro isContent
        rw [isContent] at differs
        simp [validateChecksum, genuine.fileSize] at differs
      rcases exists_not_right healthy.common before stored notContent with
        ⟨index, inside, notRight⟩
      exact fresh (by rw [validating]; exact ⟨rfl, rfl⟩) ⟨index, inside, .inr notRight⟩
  · rcases missing before with ⟨index, inside, uncovered⟩
    refine ⟨index, inside, fun call genuine settled => ?_⟩
    apply uncovered call genuine
    by_cases same : call = label.1
    · subst same
      rw [System.after_phase_self] at settled
      by_contra notYet
      exact newly ⟨genuine, settled, by simpa using notYet⟩
    · rw [System.after_phase_of_ne system same] at settled
      exact settled

end

/-- In every interleaving without harmful steps, the artifact is there as soon as the
calls that were accepted cover a file that is not empty. -/
theorem upload_completes {chunk : Nat → UserArtifactChunk} {content : Bytes}
    (nonempty : content ≠ []) {name : String} {labels : List (Nat × Outcome)}
    (harmless : Run.Along (step sum256 (sum256 content) chunk)
      (fun system label =>
        Harmless chunk content name label.1 system.shared (system.phase label.1) label.2)
      initial labels) :
    Run.Always (step sum256 (sum256 content) chunk) (Completed chunk content name) initial
      labels := by
  have preserved : ∀ system label next,
      Healthy chunk content name system ∧ SomeMissing chunk content name system →
        Harmless chunk content name label.1 system.shared (system.phase label.1) label.2 →
          step sum256 (sum256 content) chunk system label = some next →
            Healthy chunk content name next ∧ SomeMissing chunk content name next :=
    fun system label next holds allowed stepped =>
      ⟨holds.1.step preserves_healthy allowed stepped, holds.2.step nonempty holds.1 allowed stepped⟩
  have missing : SomeMissing chunk content name initial :=
    fun _ => ⟨0, List.length_pos_iff.mpr nonempty, nofun⟩
  refine Run.always_of_along preserved ?_ ⟨healthy_initial, missing⟩ harmless
  intro system holds _ covered
  by_contra absent
  rcases holds.2 (by simpa using absent) with ⟨index, inside, uncovered⟩
  rcases covered index inside with ⟨call, genuine, accepted, covers⟩
  exact uncovered call genuine (by rw [accepted]; rfl) covers

def twoChunks (call : Nat) : UserArtifactChunk where
  name := "a.zip"
  file := if call = 1 then [98] else [97]
  offsetBytes := if call = 1 then 1 else 0
  sizeBytes := 1
  fileSizeBytes := if call = 2 then 3 else 2

/-- A file of one byte; call 1 has the size wrong. -/
def oneChunk (call : Nat) : UserArtifactChunk where
  name := "a.zip"
  file := [97]
  offsetBytes := 0
  sizeBytes := 1
  fileSizeBytes := if call = 1 then 2 else 1

def emptyChunk (_ : Nat) : UserArtifactChunk where
  name := "a.zip"
  file := []
  offsetBytes := 0
  sizeBytes := 0
  fileSizeBytes := 0

theorem upload_completes_two_chunks :
    (Run.run (step sampleSum (sampleSum [97, 98]) twoChunks) initial
        (writesChunk 1 1 ++ writesChunk 2 1 ++ writesChunk 0 1 ++
          [(0, Outcome.success), (0, .success), (0, .success), (0, .success), (0, .success),
            (0, .success)])).map (fun system => system.shared.artifact.published) =
        some (some ⟨[("a.zip", [97, 98])]⟩) ∧
      Run.Always (step sampleSum (sampleSum [97, 98]) twoChunks)
        (Completed twoChunks [97, 98] "a.zip") initial
        (writesChunk 1 1 ++ writesChunk 2 1 ++ writesChunk 0 1 ++
          [(0, Outcome.success), (0, .success), (0, .success), (0, .success), (0, .success),
            (0, .success)]) :=
  ⟨by decide +kernel, upload_completes sampleSum (by decide) (by decide +kernel)⟩

theorem not_completed {checksum : String} {chunk : Nat → UserArtifactChunk} {content : Bytes}
    {name : String} {labels : List (Nat × Outcome)}
    (genuine : Genuine content name (chunk 0))
    (covers : ∀ index < content.length, Covers (chunk 0) index)
    (final : (Run.run (step sum256 checksum chunk) initial labels).map
      (fun system => (system.shared.artifact.published, system.phase 0)) =
        some (none, .returned none)) :
    ¬ Run.Always (step sum256 checksum chunk) (Completed chunk content name) initial labels := by
  intro completed
  rcases Option.map_eq_some_iff.mp final with ⟨system, reached, state⟩
  rcases Prod.mk.inj state with ⟨unpublished, accepted⟩
  have published := completed.final reached ⟨0, genuine, accepted⟩
    fun index inside => ⟨0, genuine, accepted, covers index inside⟩
  rw [unpublished] at published
  cases published

/-- A file without bytes is never moved, and neither is one whose first request had the
size wrong. -/
theorem uploads_not_completed :
    ¬ Run.Always (step sampleSum (sampleSum []) emptyChunk) (Completed emptyChunk [] "a.zip")
        initial (writesChunk 0 0) ∧
      ¬ Run.Always (step sampleSum (sampleSum [97]) oneChunk) (Completed oneChunk [97] "a.zip")
        initial (writesChunk 1 1 ++ writesChunk 0 1) := by
  constructor
  · exact not_completed _ ⟨rfl, by decide, by decide, by decide, by decide⟩
      (by simp) (by decide +kernel)
  · exact not_completed _ ⟨rfl, by decide, by decide, by decide, by decide⟩
      (by decide) (by decide +kernel)

end Cuttlefish.UserArtifacts
