import Cuttlefish.AssembleCvd.DiskBuilder

/-! # Reused composite disks -/

namespace Cuttlefish.AssembleCvd

open Fs ImageAggregator

/-! ## Times -/

theorem le_lastUpdatedFrom (files : BuilderFiles) (partitions : List ImagePartition) (ret : Nat) :
    ret ≤ lastUpdatedFrom files partitions ret ∧
      ∀ partition ∈ otherThanFrp partitions,
        partitionModificationTime files partition.imageFilePath ≤
          lastUpdatedFrom files partitions ret := by
  induction partitions generalizing ret with
  | nil => exact ⟨Nat.le_refl _, by simp [otherThanFrp]⟩
  | cons partition partitions induction =>
      by_cases frp : isFrp partition
      · rw [lastUpdatedFrom, if_pos frp, otherThanFrp, List.filter_cons_of_neg (by simp [frp])]
        exact induction ret
      · rw [lastUpdatedFrom, if_neg frp, otherThanFrp, List.filter_cons_of_pos (by simp [frp]),
          List.forall_mem_cons]
        have rest := induction
          (if partitionModificationTime files partition.imageFilePath > ret then
            partitionModificationTime files partition.imageFilePath else ret)
        refine ⟨?_, ?_, rest.2⟩
        · exact Nat.le_trans (by split <;> omega) rest.1
        · exact Nat.le_trans (by split <;> omega) rest.1

/-! ## Settings and contents -/

structure BuildInputs.HasSettings (inputs : BuildInputs) (builder : DiskBuilder) : Prop where
  vmManager : inputs.vmManager = builder.vmManager
  partitions : inputs.partitions = builder.partitions
  readOnly : inputs.readOnly = if builder.vmManager = .crosvm then some builder.readOnly else none

def CompositeDiskFile.BuiltWith (composite : CompositeDiskFile) (builder : DiskBuilder) : Prop :=
  ∃ inputs ∈ composite.builtFrom, inputs.HasSettings builder

def currentContent (files : BuilderFiles) (path : Path) : Option Bytes :=
  (files.partitionFiles path).map (·.content)

def CompositeDiskFile.Noticed (composite : CompositeDiskFile) (files : BuilderFiles) : Prop :=
  ∀ inputs ∈ composite.builtFrom, ∀ entry ∈ inputs.contents,
    currentContent files entry.1 = entry.2 ∨
      fileModificationTime composite.modified < partitionModificationTime files entry.1

def BuildInputs.Complete (inputs : BuildInputs) : Prop :=
  inputs.contents.map (·.1) = (otherThanFrp inputs.partitions).map (·.imageFilePath)

theorem complete_buildInputs (builder : DiskBuilder) (files : BuilderFiles) :
    (builder.buildInputs files).Complete := by
  rw [BuildInputs.Complete, DiskBuilder.buildInputs]
  rw [List.map_map]
  rfl

theorem BuildInputs.HasSettings.eq_buildInputs {inputs : BuildInputs} {builder : DiskBuilder}
    (settings : inputs.HasSettings builder) (complete : inputs.Complete) {files : BuilderFiles}
    (current : ∀ entry ∈ inputs.contents, currentContent files entry.1 = entry.2) :
    inputs = builder.buildInputs files := by
  rcases inputs with ⟨vmManager, partitions, readOnly, contents⟩
  rcases settings with ⟨isVmManager, isPartitions, isReadOnly⟩
  dsimp only [Complete] at *
  subst isVmManager isPartitions isReadOnly
  have isContents : contents = (contents.map (·.1)).map fun path =>
      (path, currentContent files path) := by
    rw [List.map_map]
    refine (List.map_id contents).symm.trans (List.map_congr_left fun entry isEntry => ?_)
    rw [id, Function.comp, current entry isEntry]
  rw [isContents, complete, List.map_map]
  rfl

/-! ## What a call does -/

namespace DiskBuilder

variable {builder : DiskBuilder} {now : Nat} {outcome : BuildOutcome}
  {configOutcome : ConfigOutcome} {files final : BuilderFiles}

theorem buildComposite_eq_error {failure : Failure}
    (ran : builder.buildComposite now outcome files = (.error failure, final)) :
    final = files ∨
      outcome = .failedWriting ∧ final = { files with composite := some ⟨none, now⟩ } := by
  unfold buildComposite at ran
  cases outcome with
  | failedBefore =>
      cases ran
      exact .inl rfl
  | failedWriting =>
      cases ran
      exact .inr ⟨rfl, rfl⟩
  | written => cases ran
  | unchanged => cases isComposite : files.composite <;> simp [isComposite] at ran

theorem buildComposite_eq_ok {value : Unit}
    (ran : builder.buildComposite now outcome files = (.ok value, final)) :
    ∃ modified, (modified = now ∨ ∃ composite ∈ files.composite, modified = composite.modified) ∧
      final = { files with composite := some ⟨some (builder.buildInputs files), modified⟩ } := by
  unfold buildComposite at ran
  cases outcome with
  | failedBefore => cases ran
  | failedWriting => cases ran
  | written =>
      cases ran
      exact ⟨now, .inl rfl, rfl⟩
  | unchanged =>
      cases isComposite : files.composite with
      | none =>
          simp only [isComposite] at ran
          cases ran
          exact ⟨now, .inl rfl, rfl⟩
      | some composite =>
          simp only [isComposite] at ran
          cases ran
          refine ⟨_, ?_, rfl⟩
          split
          · exact .inr ⟨composite, rfl, rfl⟩
          · exact .inl rfl

theorem writeConfig_cases (configOutcome : ConfigOutcome) (files : BuilderFiles) (text : Text) :
    ∃ result config, writeConfig configOutcome text files = (result, { files with config }) ∧
      (config = files.config ∨ config = none ∨ config = some text) := by
  cases configOutcome with
  | written => exact ⟨_, _, rfl, .inr (.inr rfl)⟩
  | notOpened => exact ⟨_, files.config, rfl, .inl rfl⟩
  | notWritten => exact ⟨_, _, rfl, .inr (.inl rfl)⟩

/-- A build was completed with these settings and files. -/
structure Completed (builder : DiskBuilder) (now : Nat) (files final : BuilderFiles) : Prop where
  partitionFiles : final.partitionFiles = files.partitionFiles
  composite : ∃ modified, (modified = now ∨ ∃ composite ∈ files.composite,
      modified = composite.modified) ∧
    final.composite = some ⟨some (builder.buildInputs files), modified⟩
  config : final.config = files.config ∨ final.config = none ∨
    ∃ text, builder.textConfig = .ok text ∧ final.config = some text

theorem rebuild_cases {result : Result Bool}
    (ran : builder.rebuild now outcome configOutcome files = (result, final)) :
    result ≠ .ok false ∧
      (final = files ∨
        (outcome = .failedWriting ∧ final = { files with composite := some ⟨none, now⟩ }) ∨
        Completed builder now files final) := by
  rw [rebuild] at ran
  rcases Action.expect_cases ran with ⟨rfl, rfl⟩ | ⟨-, ran⟩
  · exact ⟨by simp, .inl rfl⟩
  rcases Action.expect_cases ran with ⟨rfl, rfl⟩ | ⟨-, ran⟩
  · exact ⟨by simp, .inl rfl⟩
  rcases Action.expect_cases ran with ⟨rfl, rfl⟩ | ⟨-, ran⟩
  · exact ⟨by simp, .inl rfl⟩
  rcases Action.bind_cases ran with ⟨failure, isBuild, rfl⟩ | ⟨_, between, isBuild, ran⟩
  · exact ⟨by simp, (buildComposite_eq_error isBuild).imp id .inl⟩
  rcases buildComposite_eq_ok isBuild with ⟨modified, whenModified, rfl⟩
  rcases Action.ofResult_cases ran with ⟨failure, -, rfl, rfl⟩ | ⟨text, isText, ran⟩
  · exact ⟨by simp, .inr (.inr ⟨rfl, ⟨modified, whenModified, rfl⟩, .inl rfl⟩)⟩
  rcases writeConfig_cases configOutcome
    { files with composite := some ⟨some (builder.buildInputs files), modified⟩ } text with
      ⟨written, config, isWritten, isConfig⟩
  have completed : Completed builder now files
      { files with composite := some ⟨some (builder.buildInputs files), modified⟩, config } :=
    ⟨rfl, ⟨modified, whenModified, rfl⟩, isConfig.imp id (Or.imp id fun same => ⟨text, isText, same⟩)⟩
  rcases Action.bind_cases ran with ⟨failure, isError, rfl⟩ | ⟨value, between, isOk, ran⟩
  · rw [isWritten] at isError
    cases isError
    exact ⟨by simp, .inr (.inr completed)⟩
  · rw [isWritten] at isOk
    cases isOk
    cases ran
    exact ⟨by simp, .inr (.inr completed)⟩

theorem buildCompositeDiskIfNecessary_cases {result : Result Bool}
    (ran : builder.buildCompositeDiskIfNecessary now outcome configOutcome files =
      (result, final)) :
    (final = files ∧ (result = .ok false → builder.entireDisk = [] →
        builder.willRebuildCompositeDisk files = .ok false)) ∨
      result ≠ .ok false ∧
        ((outcome = .failedWriting ∧ builder.willRebuildCompositeDisk files = .ok true ∧
            final = { files with composite := some ⟨none, now⟩ }) ∨
          Completed builder now files final) := by
  rw [buildCompositeDiskIfNecessary] at ran
  rcases Action.bind_cases ran with ⟨failure, isError, -⟩ | ⟨_, between, isFiles, ran⟩
  · cases isError
  rcases Action.get_eq_ok.mp isFiles with ⟨rfl, rfl⟩
  by_cases entire : builder.entireDisk ≠ []
  · rw [if_pos entire] at ran
    cases ran
    exact .inl ⟨rfl, fun _ none_ => absurd none_ entire⟩
  rw [if_neg entire] at ran
  rcases Action.ofResult_cases ran with ⟨failure, -, rfl, rfl⟩ | ⟨necessary, isNecessary, ran⟩
  · exact .inl ⟨rfl, by simp⟩
  cases necessary with
  | false =>
      cases ran
      exact .inl ⟨rfl, fun _ _ => isNecessary⟩
  | true =>
      rcases rebuild_cases ran with ⟨notFalse, rfl | ⟨failed, isFinal⟩ | completed⟩
      · exact .inl ⟨rfl, fun isFalse => absurd isFalse notFalse⟩
      · exact .inr ⟨notFalse, .inl ⟨failed, isNecessary, isFinal⟩⟩
      · exact .inr ⟨notFalse, .inr completed⟩

end DiskBuilder

/-! ## Histories -/

/-- After a call that reuses the composite disk, a completed build from what there is now has
produced it. -/
def DiskSession.NotStale (session : DiskSession) : Prop :=
  session.reused = true → session.builder.entireDisk = [] →
    ∃ composite ∈ session.files.composite,
      composite.builtFrom = some (session.builder.buildInputs session.files)

/-- The settings are those of the build of the composite disk if the config has their text. -/
def SettingsNoticed (builder : DiskBuilder) (files : BuilderFiles) : Prop :=
  ∀ text, builder.textConfig = .ok text → files.config = some text →
    ∀ composite ∈ files.composite, composite.BuiltWith builder

/-- Updates and changes that a later call notices, and builds that do not fail midway where it
could not notice that. -/
def DiskSession.Careful (session : DiskSession) : DiskEvent → Prop
  | .pass _ => True
  | .update path file =>
      ∀ composite ∈ session.files.composite, ∀ inputs ∈ composite.builtFrom,
        path ∈ inputs.contents.map (·.1) →
          fileModificationTime file.modified ≠ fileModificationTime composite.modified
  | .configure partitions readOnly vmManager =>
      SettingsNoticed (session.builder.configure partitions readOnly vmManager) session.files
  | .call resume outcome _ =>
      let builder := { session.builder with resumeIfPossible := resume }
      outcome = .failedWriting → builder.willRebuildCompositeDisk session.files = .ok true →
        ∀ text, builder.textConfig = .ok text → session.files.config ≠ some text

structure DiskSession.Sound (session : DiskSession) : Prop where
  past : ∀ composite ∈ session.files.composite, composite.modified ≤ session.now
  noticed : ∀ composite ∈ session.files.composite, composite.Noticed session.files
  complete : ∀ composite ∈ session.files.composite, ∀ inputs ∈ composite.builtFrom, inputs.Complete
  settings : SettingsNoticed session.builder session.files
  notStale : session.NotStale

def DiskSession.initial (now : Nat) (builder : DiskBuilder)
    (partitionFiles : Path → Option PartitionFile) : DiskSession where
  now := now
  builder := builder
  files := ⟨partitionFiles, none, none⟩
  reused := false

theorem DiskSession.sound_initial (now : Nat) (builder : DiskBuilder)
    (partitionFiles : Path → Option PartitionFile) : (initial now builder partitionFiles).Sound where
  past _ isComposite := by cases isComposite
  noticed _ isComposite := by cases isComposite
  complete _ isComposite := by cases isComposite
  settings _ _ isConfig := by cases isConfig
  notStale reused := by cases reused

theorem noticed_buildInputs (builder : DiskBuilder) (files : BuilderFiles) (modified : Nat) :
    (⟨some (builder.buildInputs files), modified⟩ : CompositeDiskFile).Noticed files := by
  intro inputs isInputs entry isEntry
  rcases Option.some.inj isInputs with rfl
  rcases List.mem_map.mp isEntry with ⟨partition, -, rfl⟩
  exact .inl rfl

theorem DiskBuilder.textConfig_ne_nil {builder : DiskBuilder} {text : Text}
    (isText : builder.textConfig = .ok text) : text ≠ [] := by
  rw [textConfig] at isText
  rcases Result.bind_eq_ok.mp isText with ⟨_, -, isText⟩
  rcases Result.bind_eq_ok.mp isText with ⟨_, -, isText⟩
  cases isText
  simp

theorem DiskBuilder.reuses {builder : DiskBuilder} {files : BuilderFiles}
    (resume : builder.resumeIfPossible = true) (partitioned : builder.entireDisk = [])
    (reuse : builder.willRebuildCompositeDisk files = .ok false) :
    (∃ text, builder.textConfig = .ok text ∧ files.config = some text) ∧
      ∃ composite ∈ files.composite, lastUpdatedInputDisk files builder.partitions ≤
        fileModificationTime composite.modified := by
  rw [willRebuildCompositeDisk, if_neg (by simp [resume])] at reuse
  rcases Result.bind_eq_ok.mp reuse with ⟨_, -, reuse⟩
  rcases Result.bind_eq_ok.mp reuse with ⟨text, isText, reuse⟩
  by_cases different : files.config.getD [] ≠ text
  · rw [if_pos different] at reuse
    cases reuse
  rw [if_neg different, willRebuildForTimes] at reuse
  rcases Result.bind_eq_ok.mp reuse with ⟨_, -, reuse⟩
  rw [if_neg (by simp [partitioned])] at reuse
  rcases Result.bind_eq_ok.mp reuse with ⟨_, -, reuse⟩
  have timely := Except.ok.inj reuse
  constructor
  · refine ⟨text, isText, ?_⟩
    have same := not_not.mp different
    cases isConfig : files.config with
    | none =>
        rw [isConfig] at same
        exact absurd same.symm (textConfig_ne_nil isText)
    | some config =>
        rw [isConfig] at same
        exact congrArg some same
  · cases isComposite : files.composite with
    | none => simp [isComposite] at timely
    | some composite =>
        refine ⟨composite, rfl, ?_⟩
        simp [isComposite] at timely
        exact timely.2

theorem BuilderFiles.currentContent_update (files : BuilderFiles) (path other : Path)
    (file : PartitionFile) :
    currentContent (files.update path file) other =
      if other = path then some file.content else currentContent files other := by
  rw [currentContent, BuilderFiles.update]
  dsimp only
  rw [Function.update_apply]
  split <;> rfl

theorem BuilderFiles.partitionModificationTime_update (files : BuilderFiles) (path other : Path)
    (file : PartitionFile) :
    partitionModificationTime (files.update path file) other =
      if other = path then fileModificationTime file.modified
      else partitionModificationTime files other := by
  rw [partitionModificationTime, BuilderFiles.update]
  dsimp only
  rw [Function.update_apply]
  split <;> rfl

theorem CompositeDiskFile.Noticed.update {composite : CompositeDiskFile} {files : BuilderFiles}
    (noticed : composite.Noticed files) {path : Path} {file : PartitionFile}
    (later : composite.modified ≤ file.modified)
    (otherSecond : ∀ inputs ∈ composite.builtFrom, path ∈ inputs.contents.map (·.1) →
      fileModificationTime file.modified ≠ fileModificationTime composite.modified) :
    composite.Noticed (files.update path file) := by
  intro inputs isInputs entry isEntry
  rw [BuilderFiles.currentContent_update, BuilderFiles.partitionModificationTime_update]
  by_cases updated : entry.1 = path
  · rw [if_pos updated, if_pos updated]
    have different := otherSecond inputs isInputs
      (List.mem_map.mpr ⟨entry, isEntry, updated⟩)
    have notEarlier : fileModificationTime composite.modified ≤
        fileModificationTime file.modified := Nat.div_le_div_right later
    exact .inr (Nat.lt_of_le_of_ne notEarlier different.symm)
  · rw [if_neg updated, if_neg updated]
    exact noticed inputs isInputs entry isEntry

theorem DiskSession.Sound.fresh {session : DiskSession} (sound : session.Sound)
    {builder : DiskBuilder} (noticed : SettingsNoticed builder session.files)
    (resume : builder.resumeIfPossible = true) (partitioned : builder.entireDisk = [])
    (reuse : builder.willRebuildCompositeDisk session.files = .ok false) :
    ∃ composite ∈ session.files.composite,
      composite.builtFrom = some (builder.buildInputs session.files) := by
  rcases DiskBuilder.reuses resume partitioned reuse with
    ⟨⟨text, isText, isConfig⟩, composite, isComposite, notOlder⟩
  rcases noticed text isText isConfig composite isComposite with ⟨inputs, isInputs, settings⟩
  have complete := sound.complete composite isComposite inputs isInputs
  have current : ∀ entry ∈ inputs.contents, currentContent session.files entry.1 = entry.2 := by
    intro entry isEntry
    rcases sound.noticed composite isComposite inputs isInputs entry isEntry with same | newer
    · exact same
    · have isPath : entry.1 ∈ (otherThanFrp inputs.partitions).map (·.imageFilePath) := by
        rw [← complete]
        exact List.mem_map_of_mem isEntry
      rcases List.mem_map.mp isPath with ⟨partition, isPartition, samePath⟩
      rw [settings.partitions] at isPartition
      have notNewer := (le_lastUpdatedFrom session.files builder.partitions 0).2 partition
        isPartition
      rw [samePath] at notNewer
      have contradiction := Nat.lt_of_lt_of_le newer (Nat.le_trans notNewer notOlder)
      exact absurd contradiction (Nat.lt_irrefl _)
  exact ⟨composite, isComposite, isInputs.trans
    (congrArg some (settings.eq_buildInputs complete current))⟩

theorem DiskSession.Sound.completed {session : DiskSession} (sound : session.Sound)
    {builder : DiskBuilder} {final : BuilderFiles}
    (completed : DiskBuilder.Completed builder session.now session.files final) :
    DiskSession.Sound { session with builder, files := final, reused := false } := by
  rcases completed.composite with ⟨modified, whenModified, isComposite⟩
  have past : modified ≤ session.now := by
    rcases whenModified with rfl | ⟨composite, isOld, rfl⟩
    · exact Nat.le_refl _
    · exact sound.past composite isOld
  have sameInputs : builder.buildInputs final = builder.buildInputs session.files := by
    unfold DiskBuilder.buildInputs
    rw [completed.partitionFiles]
  refine ⟨?_, ?_, ?_, ?_, fun reused => by cases reused⟩
  all_goals dsimp only
  · intro composite isIt
    rcases Option.some.inj (isComposite.symm.trans isIt) with rfl
    exact past
  · intro composite isIt
    rcases Option.some.inj (isComposite.symm.trans isIt) with rfl
    rw [← sameInputs]
    exact noticed_buildInputs builder final modified
  · intro composite isIt inputs isInputs
    rcases Option.some.inj (isComposite.symm.trans isIt) with rfl
    rcases Option.some.inj isInputs with rfl
    exact complete_buildInputs builder session.files
  · intro text _ _ composite isIt
    rcases Option.some.inj (isComposite.symm.trans isIt) with rfl
    exact ⟨_, rfl, rfl, rfl, rfl⟩

theorem DiskSession.Sound.failed {session : DiskSession} {builder : DiskBuilder}
    (other : ∀ text, builder.textConfig = .ok text → session.files.config ≠ some text) :
    DiskSession.Sound { session with
      builder, files := { session.files with composite := some ⟨none, session.now⟩ },
      reused := false } := by
  refine ⟨?_, ?_, ?_, fun text isText isConfig => absurd isConfig (other text isText),
    fun reused => by cases reused⟩
  · intro composite isIt
    rcases Option.some.inj isIt with rfl
    exact Nat.le_refl _
  · intro composite isIt inputs isInputs
    rcases Option.some.inj isIt with rfl
    cases isInputs
  · intro composite isIt inputs isInputs
    rcases Option.some.inj isIt with rfl
    cases isInputs

theorem DiskSession.Sound.step {session next : DiskSession} {event : DiskEvent}
    (sound : session.Sound) (careful : session.Careful event)
    (stepped : session.step event = some next) : next.Sound := by
  cases event with
  | pass duration =>
      rcases Option.some.inj stepped with rfl
      exact ⟨fun composite isComposite => Nat.le_trans (sound.past composite isComposite)
        (Nat.le_add_right _ _), sound.noticed, sound.complete, sound.settings, fun reused => by
          cases reused⟩
  | update path file =>
      dsimp only [DiskSession.step] at stepped
      by_cases notPast : session.now ≤ file.modified
      · rw [if_pos notPast] at stepped
        rcases Option.some.inj stepped with rfl
        refine ⟨sound.past, fun composite isComposite => ?_, sound.complete, sound.settings,
          fun reused => by cases reused⟩
        exact (sound.noticed composite isComposite).update
          (Nat.le_trans (sound.past composite isComposite) notPast)
          (careful composite isComposite)
      · rw [if_neg notPast] at stepped
        cases stepped
  | configure partitions readOnly vmManager =>
      rcases Option.some.inj stepped with rfl
      exact ⟨sound.past, sound.noticed, sound.complete, careful, fun reused => by cases reused⟩
  | call resume outcome configOutcome =>
      rcases ran : DiskBuilder.buildCompositeDiskIfNecessary
        { session.builder with resumeIfPossible := resume } session.now outcome configOutcome
        session.files with ⟨result, files⟩
      have isNext : next = { session with
          builder := { session.builder with resumeIfPossible := resume }, files,
          reused := resume && result = .ok false } := by
        simpa [DiskSession.step, ran] using stepped.symm
      subst isNext
      have sameSettings : SettingsNoticed { session.builder with resumeIfPossible := resume }
          session.files := by
        intro text isText isConfig composite isComposite
        rcases sound.settings text isText isConfig composite isComposite with
          ⟨inputs, isInputs, settings⟩
        exact ⟨inputs, isInputs, settings.vmManager, settings.partitions, settings.readOnly⟩
      rcases DiskBuilder.buildCompositeDiskIfNecessary_cases ran with
        ⟨rfl, reuse⟩ | ⟨notFalse, ⟨failed, necessary, rfl⟩ | completed⟩
      · refine ⟨sound.past, sound.noticed, sound.complete, sameSettings, ?_⟩
        intro reused partitioned
        rcases Bool.and_eq_true_iff.mp reused with ⟨isResume, isFalse⟩
        exact sound.fresh sameSettings isResume partitioned
          (reuse (of_decide_eq_true isFalse) partitioned)
      · rw [decide_eq_false notFalse, Bool.and_false]
        exact Sound.failed (careful failed necessary)
      · rw [decide_eq_false notFalse, Bool.and_false]
        exact sound.completed completed

/-- A composite disk that is reused is not stale in a history of careful steps. -/
theorem reused_composite_disk_not_stale (now : Nat) (builder : DiskBuilder)
    (partitionFiles : Path → Option PartitionFile) {events : List DiskEvent}
    (careful : Run.Along DiskSession.step DiskSession.Careful
      (DiskSession.initial now builder partitionFiles) events) :
    Run.Always DiskSession.step DiskSession.NotStale
      (DiskSession.initial now builder partitionFiles) events :=
  Run.always_of_along (fun _ _ _ sound careful stepped => sound.step careful stepped)
    (fun _ sound => sound.notStale) (DiskSession.sound_initial now builder partitionFiles) careful

namespace FreshCompositeDisk

def superImage : ImagePartition := ⟨[115], "super.img", .linuxFilesystem⟩

def sampleBuilder : DiskBuilder where
  partitions := [superImage]
  entireDisk := []
  headerPath := "header".toList
  footerPath := "footer".toList
  vmManager := .crosvm
  configPath := "config".toList
  compositeDiskPath := "composite".toList
  resumeIfPossible := true
  readOnly := true

def sampleStart : DiskSession :=
  .initial 1000000000 sampleBuilder fun path =>
    if path = "super.img" then some ⟨[1], 500000000⟩ else none

def builtInOtherSecond (session : DiskSession) : DiskEvent → Bool
  | .pass _ => true
  | .update _ file => session.files.composite.all fun composite =>
      fileModificationTime file.modified ≠ fileModificationTime composite.modified
  | .configure .. => false
  | .call _ outcome _ => outcome matches .written

theorem careful_of_builtInOtherSecond (session : DiskSession) (event : DiskEvent)
    (built : builtInOtherSecond session event = true) : session.Careful event := by
  cases event with
  | pass duration => trivial
  | update path file =>
      intro composite isComposite inputs _ _
      exact of_decide_eq_true ((Option.all_eq_true _ _).mp built composite isComposite)
  | configure partitions readOnly vmManager => cases built
  | call resume outcome configOutcome =>
      intro failed
      subst failed
      cases built

def noticedUpdate : List DiskEvent :=
  [.call true .written .written, .pass 1000000000, .update "super.img" ⟨[2], 2000000000⟩,
    .call true .written .written, .call true .written .written]

def failedRebuild : List DiskEvent :=
  [.call true .written .written, .pass 1000000000, .update "super.img" ⟨[2], 2000000000⟩,
    .pass 1000000000, .call true .failedWriting .written, .call true .written .written]

end FreshCompositeDisk

open FreshCompositeDisk in
theorem noticed_update_not_stale :
    Run.Always DiskSession.step DiskSession.NotStale sampleStart noticedUpdate ∧
      (Run.run DiskSession.step sampleStart noticedUpdate).map (·.reused) = some true := by
  constructor
  · apply reused_composite_disk_not_stale
    apply Run.Along.imp careful_of_builtInOtherSecond
    decide +kernel
  · decide +kernel

open FreshCompositeDisk in
/-- A composite disk that could not be completed is reused: the config still has the text of the
build before, and the disk is newer than its partition. -/
theorem incomplete_composite_disk_reused :
    ¬ ∀ (now : Nat) (builder : DiskBuilder) (partitionFiles : Path → Option PartitionFile)
        (events : List DiskEvent),
      Run.Always DiskSession.step DiskSession.NotStale
        (DiskSession.initial now builder partitionFiles) events := by
  intro always
  have reached : (Run.run DiskSession.step sampleStart failedRebuild).map (fun session =>
      (session.reused, session.builder.entireDisk,
        session.files.composite.map (·.builtFrom.isSome))) = some (true, [], some false) := by
    decide +kernel
  rcases Option.map_eq_some_iff.mp reached with ⟨final, isFinal, shown⟩
  have notStale := (always _ _ _ failedRebuild).final isFinal
  simp only [Prod.mk.injEq] at shown
  rcases notStale shown.1 shown.2.1 with ⟨composite, isComposite, built⟩
  have isShown := shown.2.2
  rw [Option.mem_def.mp isComposite, Option.map_some, built] at isShown
  cases isShown

end Cuttlefish.AssembleCvd
