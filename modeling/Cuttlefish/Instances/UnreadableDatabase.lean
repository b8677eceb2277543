import Cuttlefish.Instances.InstanceDatabase

/-! # Backing files that do not parse

`LoadData` drops the result of `ParseFromString`. A method called on content
that does not parse therefore runs on whatever message the parser left behind,
and this file says which methods then return an error and keep the content. -/

namespace Cuttlefish.Instances.InstanceDatabase

def NamesValid (group : InstanceGroup) : Prop :=
  (group.name = "" ∨ isValidGroupName group.name = true) ∧
    ∀ inst ∈ group.instances, isValidInstanceName inst.name = true

theorem checkNames_cases (group : InstanceGroup) :
    NamesValid group ∧ checkNames group = .ok () ∨
      ¬ NamesValid group ∧ ∃ message, checkNames group = .error (.err message) := by
  have loop : ∀ instances : List Instance,
      (∀ inst ∈ instances, isValidInstanceName inst.name = true) ∧
        (instances.forM fun inst => cfExpect (isValidInstanceName inst.name)
          ("instance_name \"" ++ inst.name ++ "\" is invalid")) = .ok () ∨
      (¬ ∀ inst ∈ instances, isValidInstanceName inst.name = true) ∧
        ∃ message, (instances.forM fun inst => cfExpect (isValidInstanceName inst.name)
          ("instance_name \"" ++ inst.name ++ "\" is invalid")) = .error (.err message) := by
    intro instances
    induction instances with
    | nil => exact .inl ⟨by simp, rfl⟩
    | cons inst rest induction =>
        by_cases valid : isValidInstanceName inst.name = true
        · simpa [valid, bind, Except.bind] using induction
        · exact .inr ⟨by simp [valid], "instance_name \"" ++ inst.name ++ "\" is invalid",
            by simp [valid, bind, Except.bind]⟩
  rw [checkNames]
  by_cases named : group.name = "" ∨ isValidGroupName group.name = true
  · have condition : (group.name.isEmpty || isValidGroupName group.name) = true := by
      simpa using named
    simp only [condition, cfExpect_true, bind, Except.bind]
    rcases loop group.instances with ⟨valid, ok⟩ | ⟨invalid, failed⟩
    · exact .inl ⟨⟨named, valid⟩, ok⟩
    · exact .inr ⟨fun both => invalid both.2, failed⟩
  · have condition : (group.name.isEmpty || isValidGroupName group.name) = false := by
      simpa using named
    simp only [condition, cfExpect_false, bind, Except.bind]
    exact .inr ⟨fun both => named both.1, _, rfl⟩

/-- The checks of `AddInstanceGroup` reject `group` on the given stored data. A
stored group of the same name that is not valid fails a `CHECK` instead. -/
def AddRejected (group : InstanceGroup) (data : PersistentData) : Prop :=
  ¬ NamesValid group ∨
    if group.name ≠ "" ∧ ∃ stored ∈ data.instanceGroups, stored.name = group.name then
      ∀ stored ∈ data.instanceGroups, stored.name = group.name → stored.Valid
    else SharesHome group data.instanceGroups ∨ SharesId group data.instanceGroups

/-- The method's own validation rejects the given stored data. -/
def Method.Rejects (data : PersistentData) : Method → Prop
  | .isEmpty => False
  | .clear => ∃ group ∈ data.instanceGroups, ¬ group.Valid
  | .addInstanceGroup group => AddRejected group.proto data
  | .updateInstanceGroup group =>
      ∀ stored ∈ data.instanceGroups, stored.name ≠ group.proto.name
  | .removeInstanceGroup _ => False
  | .findGroups _ => False
  | .findGroup filter =>
      (∀ group ∈ data.instanceGroups, groupMatches group filter = true → group.Valid) ∧
        (data.instanceGroups.filter fun group => groupMatches group filter).length ≠ 1
  | .findInstanceWithGroup filter =>
      1 < filter.instanceNames.eraseDups.length ∨
        ¬ ∃ group inst, matchingInstances filter data = [(group, inst)] ∧ group.Valid
  | .instanceGroups => ∃ group ∈ data.instanceGroups, ¬ group.Valid

theorem addTask_returnsError_iff (group : InstanceGroup) (valid : NamesValid group)
    (data : PersistentData) :
    (addTask group data).ReturnsError ↔ AddRejected group data := by
  rcases addTask_cases group data with ⟨name, chosen, outcome⟩
  rw [AddRejected]
  simp only [valid, not_true, false_or]
  rw [ChosenName] at chosen
  by_cases unnamed : group.name = ""
  · simp only [unnamed, if_true] at chosen
    simp only [unnamed, ne_eq, not_true, false_and, if_false]
    rcases outcome with ⟨⟨stored, member, same, -⟩, -⟩ | ⟨⟨stored, member, same⟩, -⟩ |
      ⟨-, clash, failed⟩ | ⟨-, home, id, ok⟩
    · exact absurd same (chosen.2 stored member)
    · exact absurd same (chosen.2 stored member)
    · exact ⟨fun _ => clash, fun _ => failed⟩
    · constructor
      · rw [ok]
        exact fun error => absurd error (Result.returnsError_ok _)
      · intro parts
        rcases parts with shares | shares
        · exact absurd shares home
        · exact absurd shares id
  · simp only [unnamed, if_false] at chosen
    subst chosen
    rcases outcome with ⟨⟨stored, member, same, invalid⟩, message, aborted⟩ |
      ⟨taken, allValid, failed⟩ | ⟨fresh, clash, failed⟩ | ⟨fresh, home, id, ok⟩
    · rw [if_pos ⟨unnamed, stored, member, same⟩, aborted]
      constructor
      · exact fun error => absurd error (Result.returnsError_abort _)
      · exact fun allValid => absurd (allValid stored member same) invalid
    · rw [if_pos ⟨unnamed, taken⟩]
      exact ⟨fun _ => allValid, fun _ => failed⟩
    · rw [if_neg fun both => both.2.elim fun stored both => fresh stored both.1 both.2]
      exact ⟨fun _ => clash, fun _ => failed⟩
    · rw [if_neg fun both => both.2.elim fun stored both => fresh stored both.1 both.2, ok]
      constructor
      · exact fun error => absurd error (Result.returnsError_ok _)
      · intro parts
        rcases parts with shares | shares
        · exact absurd shares home
        · exact absurd shares id

private theorem returnsError_map {α β : Type} (f : α → β) (result : Result α) :
    (f <$> result).ReturnsError ↔ result.ReturnsError := by
  rcases result with (message | message) | value
  · exact ⟨fun _ => ⟨message, rfl⟩, fun _ => ⟨message, rfl⟩⟩
  · exact ⟨fun error => absurd error (Result.returnsError_abort message),
      fun error => absurd error (Result.returnsError_abort message)⟩
  · exact ⟨fun error => absurd error (Result.returnsError_ok (f value)),
      fun error => absurd error (Result.returnsError_ok value)⟩

variable {codec : MessageCodec PersistentData} {content : Bytes}

private theorem shared_keeps_iff {α : Type} {f : α → Value} {task : PersistentData → Result α}
    {Rejected : Prop}
    (rejects : (task (codec.parseFromString content).2).ReturnsError ↔ Rejected) :
    ((f <$> DataViewer.withSharedLock codec .faultless task content).ReturnsError ∧
      content = content) ↔ Rejected := by
  rw [DataViewer.withSharedLock_faultless, returnsError_map]
  simpa using rejects

private theorem exclusive_keeps_iff {α : Type} {f : α → Value}
    {task : PersistentData → Result (α × PersistentData)} {Rejected : Prop}
    (nonempty : content ≠ [])
    (rejects : (task (codec.parseFromString content).2).ReturnsError ↔ Rejected) :
    ((f <$> (DataViewer.withExclusiveLock codec .faultless task content).1).ReturnsError ∧
      (DataViewer.withExclusiveLock codec .faultless task content).2 = content) ↔
        Rejected := by
  rw [DataViewer.withExclusiveLock_faultless, returnsError_map, ← rejects]
  cases ran : task (codec.parseFromString content).2 with
  | error failure =>
      cases failure with
      | err message => simp
      | abort message => simp
  | ok result =>
      rcases result with ⟨value, data⟩
      simp only [Result.returnsError_ok, iff_false, not_and]
      cases codec.serializeToString data with
      | none => exact fun _ kept => nonempty kept.symm
      | some str => exact fun error => absurd error (Result.returnsError_ok value)

private theorem updateTask_returnsError_iff (group : InstanceGroup) (data : PersistentData) :
    (updateTask group data).ReturnsError ↔
      ∀ stored ∈ data.instanceGroups, stored.name ≠ group.name := by
  rw [updateTask]
  rcases replaceGroup_cases group data.instanceGroups with ⟨absent, none_⟩ |
    ⟨before, stored, after, split, -, same, some_⟩
  · simpa [none_] using absent
  · rw [some_]
    constructor
    · exact fun error => absurd error (Result.returnsError_ok _)
    · exact fun absent => absurd same (absent stored (by simp [split]))

private theorem mapM_create_returnsError_iff (groups : List InstanceGroup) :
    (groups.mapM LocalInstanceGroup.create).ReturnsError ↔
      ∃ group ∈ groups, ¬ group.Valid := by
  rcases mapM_create_cases groups with ⟨invalid, failed⟩ | ⟨valid, handles, ok, -⟩
  · exact ⟨fun _ => invalid, fun _ => failed⟩
  · rw [ok]
    constructor
    · exact fun error => absurd error (Result.returnsError_ok _)
    · rintro ⟨group, member, invalid⟩
      exact absurd (valid group member) invalid

private theorem clearTask_returnsError_iff (data : PersistentData) :
    (clearTask data).ReturnsError ↔ ∃ group ∈ data.instanceGroups, ¬ group.Valid := by
  rw [← mapM_create_returnsError_iff]
  rw [clearTask]
  cases data.instanceGroups.mapM LocalInstanceGroup.create with
  | error failure => cases failure <;> simp [bind, Except.bind]
  | ok handles =>
      constructor
      · exact fun error => absurd error (Result.returnsError_ok _)
      · exact fun error => absurd error (Result.returnsError_ok _)

private theorem findGroup_returnsError_iff (filter : Filter) (data : PersistentData) :
    (findGroupsIn filter data.instanceGroups >>= exactlyOne).ReturnsError ↔
      (∀ group ∈ data.instanceGroups, groupMatches group filter = true → group.Valid) ∧
        (data.instanceGroups.filter fun group => groupMatches group filter).length ≠ 1 := by
  rcases findGroupsIn_cases filter data.instanceGroups with
    ⟨⟨group, member, selected, invalid⟩, message, aborted⟩ | ⟨valid, found, ok, protos⟩
  · rw [aborted]
    constructor
    · exact fun error => absurd error (Result.returnsError_abort message)
    · exact fun both => absurd (both.1 group member selected) invalid
  · have count : (data.instanceGroups.filter fun group =>
        groupMatches group filter).length = found.length := by
      rw [← protos, List.length_map]
    rw [ok, count]
    change (exactlyOne found).ReturnsError ↔ _
    unfold exactlyOne
    split
    · simp
    · rename_i notOne
      refine ⟨fun _ => ⟨valid, ?_⟩, fun _ => Result.returnsError_err _⟩
      intro one
      rcases List.length_eq_one_iff.mp one with ⟨group, equal⟩
      exact notOne group equal

private theorem findInstanceTask_returnsError_iff (filter : Filter) (data : PersistentData) :
    (findInstanceTask filter data).ReturnsError ↔
      ¬ ∃ group inst, matchingInstances filter data = [(group, inst)] ∧ group.Valid := by
  rcases findInstanceTask_cases filter data with ⟨group, inst, single, valid, ok⟩ |
    ⟨none_, failed⟩
  · rw [ok]
    constructor
    · exact fun error => absurd error (Result.returnsError_ok _)
    · exact fun none_ => absurd ⟨group, inst, single, valid⟩ none_
  · exact ⟨fun _ => none_, fun _ => failed⟩

private theorem findGroups_not_returnsError (filter : Filter) (data : PersistentData) :
    (findGroupsIn filter data.instanceGroups).ReturnsError ↔ False := by
  rcases findGroupsIn_cases filter data.instanceGroups with ⟨-, message, aborted⟩ |
    ⟨-, found, ok, -⟩
  · simp [aborted]
  · simp [ok]

private theorem removeTask_not_returnsError (groupName : String) (data : PersistentData) :
    (removeTask groupName data).ReturnsError ↔ False := by
  rw [removeTask]
  cases eraseGroup groupName data.instanceGroups <;> simp

theorem Method.run_keeps_iff (method : Method) (nonempty : content ≠ []) :
    ((method.run codec .faultless content).1.ReturnsError ∧
      (method.run codec .faultless content).2 = content) ↔
        method.Rejects (codec.parseFromString content).2 := by
  cases method with
  | isEmpty => exact shared_keeps_iff (by simp [isEmptyTask, Rejects])
  | clear => exact exclusive_keeps_iff nonempty (clearTask_returnsError_iff _)
  | addInstanceGroup group =>
      simp only [run, Rejects]
      rcases checkNames_cases group.proto with ⟨valid, ok⟩ | ⟨invalid, message, failed⟩
      · rw [ok]
        exact exclusive_keeps_iff nonempty (addTask_returnsError_iff group.proto valid _)
      · rw [failed]
        simp [AddRejected, invalid]
  | updateInstanceGroup group =>
      exact exclusive_keeps_iff nonempty (updateTask_returnsError_iff group.proto _)
  | removeInstanceGroup groupName =>
      exact exclusive_keeps_iff nonempty (removeTask_not_returnsError groupName _)
  | findGroups filter => exact shared_keeps_iff (findGroups_not_returnsError filter _)
  | findGroup filter =>
      simp only [run, Rejects, returnsError_map, DataViewer.withSharedLock_faultless]
      simpa using findGroup_returnsError_iff filter (codec.parseFromString content).2
  | findInstanceWithGroup filter =>
      simp only [run, Rejects]
      by_cases single : filter.instanceNames.eraseDups.length ≤ 1
      · have notMany : ¬ 1 < filter.instanceNames.eraseDups.length := by omega
        rw [if_pos single, or_iff_right notMany]
        exact shared_keeps_iff (findInstanceTask_returnsError_iff filter _)
      · rw [if_neg single]
        have many : 1 < filter.instanceNames.eraseDups.length := by omega
        simp [many]
  | instanceGroups => exact shared_keeps_iff (mapM_create_returnsError_iff _)

/-- The content of the backing file after one method call. -/
def fileStep (codec : MessageCodec PersistentData) (content : Bytes) (method : Method) :
    Option Bytes :=
  some (method.run codec .faultless content).2

/-- The call fails and leaves the backing file as it found it. -/
def FailsAndKeeps (codec : MessageCodec PersistentData) (content : Bytes)
    (method : Method) : Prop :=
  (method.run codec .faultless content).1.ReturnsError ∧
    (method.run codec .faultless content).2 = content

/-- A sequence of calls on content that does not parse fails throughout and
never changes the file exactly if every method of the sequence rejects, by its
own checks, the message that the failed parse left behind. -/
theorem unreadable_content_kept_iff
    (parsesEmpty : (codec.parseFromString []).1 = true)
    (unreadable : (codec.parseFromString content).1 = false) (methods : List Method) :
    Run.Along (fileStep codec) (FailsAndKeeps codec) content methods ↔
      ∀ method ∈ methods, method.Rejects (codec.parseFromString content).2 := by
  have nonempty : content ≠ [] := by
    intro same
    subst same
    simp [parsesEmpty] at unreadable
  induction methods with
  | nil => simp [Run.Along]
  | cons method methods induction =>
      simp only [Run.Along, fileStep, Option.some.injEq, forall_eq', List.mem_cons,
        forall_eq_or_imp]
      have first : FailsAndKeeps codec content method ↔ _ := method.run_keeps_iff nonempty
      constructor
      · intro parts
        rcases parts with ⟨keeps, rest⟩
        rw [keeps.2] at rest
        exact ⟨first.mp keeps, induction.mp rest⟩
      · intro parts
        rcases parts with ⟨rejects, rest⟩
        have keeps := first.mpr rejects
        rw [keeps.2]
        exact ⟨keeps, induction.mpr rest⟩

theorem unreadable_content_kept_iff_update :
    (sampleCodec.parseFromString (0xff :: sampleWireA)).1 = false ∧
      (Run.Along (fileStep sampleCodec) (FailsAndKeeps sampleCodec) (0xff :: sampleWireA)
          [.updateInstanceGroup ⟨sampleGroupA, sampleGroupA_valid⟩] ↔
        ∀ method ∈ [Method.updateInstanceGroup ⟨sampleGroupA, sampleGroupA_valid⟩],
          method.Rejects (sampleCodec.parseFromString (0xff :: sampleWireA)).2) :=
  ⟨by decide, unreadable_content_kept_iff (by decide) (by decide) _⟩

/-- Adding a group to the damaged database succeeds and replaces the file by
one that holds only the new group. -/
theorem unreadable_content_overwritten :
    (sampleCodec.parseFromString (0xff :: sampleWireA)).1 = false ∧
      Method.run sampleCodec .faultless (0xff :: sampleWireA)
          (.addInstanceGroup ⟨sampleGroupB, sampleGroupB_valid⟩) =
        (.ok .unit, sampleWireB) ∧
      ¬ FailsAndKeeps sampleCodec (0xff :: sampleWireA)
          (.addInstanceGroup ⟨sampleGroupB, sampleGroupB_valid⟩) := by
  refine ⟨by decide, rfl, ?_⟩
  intro parts
  rcases parts with ⟨-, kept⟩
  revert kept
  decide

end Cuttlefish.Instances.InstanceDatabase
