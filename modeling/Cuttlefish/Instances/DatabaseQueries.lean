import Cuttlefish.Instances.UnreadableDatabase

/-! # Finding an instance and naming a group

What `FindInstanceWithGroup` finds in a stored database, and which name `AddInstanceGroup`
gives to a group that has none. -/

namespace Cuttlefish.Instances

namespace DataViewer

variable {Data R : Type} {codec : MessageCodec Data} {io : Io} {content : Bytes}

variable (codec io content) in
/-- The backing file can be locked and read, and this is what is read from it. -/
def Loads (data : Data) : Prop := withSharedLock codec io Except.ok content = .ok data

theorem withSharedLock_of_loads {data : Data} (loads : Loads codec io content data)
    (task : Data → Result R) : withSharedLock codec io task content = task data := by
  rw [Loads, withSharedLock] at loads
  rw [withSharedLock]
  cases locked : lockBackingFile io with
  | error failure =>
      rw [locked] at loads
      cases loads
  | ok _ =>
      rw [locked] at loads
      cases loaded : loadData codec io content with
      | error failure =>
          rw [loaded] at loads
          cases loads
      | ok stored =>
          rw [loaded] at loads
          cases loads
          rfl

theorem withExclusiveLock_congr {first second : Data → Result (R × Data)}
    (same : first (codec.parseFromString content).2 = second (codec.parseFromString content).2) :
    withExclusiveLock codec io first content = withExclusiveLock codec io second content := by
  rw [withExclusiveLock, withExclusiveLock]
  cases lockBackingFile io with
  | error failure => rfl
  | ok _ =>
      cases loaded : loadData codec io content with
      | error failure => rfl
      | ok data =>
          dsimp only
          rw [(loadData_eq_ok loaded).2, same]

end DataViewer

namespace InstanceDatabase

open DataViewer

/-! ## One instance -/

def devices (data : PersistentData) : List (InstanceGroup × Instance) :=
  data.instanceGroups.flatMap fun group => group.instances.map fun inst => (group, inst)

def Filter.Selects (filter : Filter) (device : InstanceGroup × Instance) : Prop :=
  (∀ name ∈ filter.groupName, device.1.name = name) ∧
    (∀ id ∈ filter.instanceId, device.2.id = id) ∧
    ∀ name ∈ filter.instanceNames, device.2.name = name

instance (filter : Filter) : DecidablePred filter.Selects :=
  fun _ => inferInstanceAs (Decidable (_ ∧ _ ∧ _))

def selected (filter : Filter) (data : PersistentData) : List (InstanceGroup × Instance) :=
  (devices data).filter fun device => filter.Selects device

section

variable {filter : Filter}

theorem names_eq (atMostOne : filter.instanceNames.eraseDups.length ≤ 1) {first second : String}
    (isFirst : first ∈ filter.instanceNames) (isSecond : second ∈ filter.instanceNames) :
    first = second := by
  rw [← List.mem_eraseDups] at isFirst isSecond
  cases distinct : filter.instanceNames.eraseDups with
  | nil =>
      rw [distinct] at isFirst
      cases isFirst
  | cons name rest =>
      rw [distinct, List.length_cons] at atMostOne
      have alone : rest = [] := List.eq_nil_of_length_eq_zero (by omega)
      rw [distinct, alone, List.mem_singleton] at isFirst isSecond
      rw [isFirst, isSecond]

theorem selects_iff (atMostOne : filter.instanceNames.eraseDups.length ≤ 1)
    {group : InstanceGroup} {inst : Instance} (member : inst ∈ group.instances) :
    filter.Selects (group, inst) ↔
      groupMatches group filter = true ∧ instanceMatches inst filter = true := by
  have named : (∀ name ∈ filter.instanceNames, inst.name = name) ↔
      filter.instanceNames = [] ∨ inst.name ∈ filter.instanceNames := by
    constructor
    · intro all
      cases names : filter.instanceNames with
      | nil => exact .inl rfl
      | cons name rest =>
          have isName : inst.name = name := all name (by rw [names]; exact List.mem_cons_self)
          exact .inr (by rw [isName]; exact List.mem_cons_self)
    · intro either name isName
      rcases either with none | isOther
      · rw [none] at isName
        cases isName
      · exact names_eq atMostOne isOther isName
  have inGroup : inst.name ∈ group.instanceNames := List.mem_map.mpr ⟨inst, member, rfl⟩
  have idInGroup : inst.id ∈ group.ids := List.mem_map.mpr ⟨inst, member, rfl⟩
  constructor
  · intro selects
    rcases selects with ⟨ofGroup, ofId, ofNames⟩
    rw [groupMatches, instanceMatches]
    simp only [Bool.and_eq_true, List.all_eq_true, Bool.or_eq_true, List.isEmpty_iff,
      List.contains_iff_mem]
    refine ⟨⟨⟨?_, ?_⟩, ?_⟩, ?_, named.mp ofNames⟩
    · cases isGroup : filter.groupName with
      | none => rfl
      | some name => exact beq_iff_eq.mpr (ofGroup name isGroup).symm
    · cases isId : filter.instanceId with
      | none => rfl
      | some id => exact List.contains_iff_mem.mpr (ofId id isId ▸ idInGroup)
    · intro name isName
      exact ofNames name isName ▸ inGroup
    · cases isId : filter.instanceId with
      | none => rfl
      | some id => exact beq_iff_eq.mpr (ofId id isId).symm
  · intro both
    rw [groupMatches, instanceMatches] at both
    simp only [Bool.and_eq_true, Bool.or_eq_true, List.isEmpty_iff,
      List.contains_iff_mem] at both
    rcases both with ⟨⟨⟨ofGroup, -⟩, -⟩, ofId, ofNames⟩
    refine ⟨?_, ?_, named.mpr ofNames⟩
    · intro name isGroup
      rw [Option.mem_def.mp isGroup] at ofGroup
      exact (beq_iff_eq.mp ofGroup).symm
    · intro id isId
      rw [Option.mem_def.mp isId] at ofId
      exact (beq_iff_eq.mp ofId).symm

theorem matchingInstances_eq_selected (atMostOne : filter.instanceNames.eraseDups.length ≤ 1)
    (data : PersistentData) : matchingInstances filter data = selected filter data := by
  rcases data with ⟨groups⟩
  induction groups with
  | nil => rfl
  | cons group rest induction =>
      have first : selected filter ⟨group :: rest⟩ =
          (group.instances.filter fun inst => filter.Selects (group, inst)).map (group, ·) ++
            selected filter ⟨rest⟩ := by
        simp only [selected, devices, List.flatMap_cons, List.filter_append, List.filter_map]
        rfl
      rw [first, ← induction]
      by_cases isMatch : groupMatches group filter = true
      · have same : (group.instances.filter fun inst => decide (filter.Selects (group, inst))) =
            group.instances.filter fun inst => instanceMatches inst filter := by
          apply List.filter_congr
          intro inst member
          rw [Bool.eq_iff_iff, decide_eq_true_iff, selects_iff atMostOne member]
          exact and_iff_right isMatch
        rw [same]
        simp only [matchingInstances, List.filter_cons, isMatch, if_true, List.flatMap_cons]
      · have none : (group.instances.filter fun inst => filter.Selects (group, inst)) = [] := by
          apply List.filter_eq_nil_iff.mpr
          intro inst member selects
          exact isMatch ((selects_iff atMostOne member).mp (of_decide_eq_true selects)).1
        rw [none]
        simp only [matchingInstances, List.filter_cons, isMatch, List.map_nil, List.nil_append]
        rfl

/-- `FindInstanceWithGroup` finds an instance exactly if the filter selects no other, and the
group of the instance passes the checks of `LocalInstanceGroup::Create`. -/
theorem findInstanceWithGroup_ok_iff {codec : MessageCodec PersistentData} {io : Io}
    {content : Bytes} {data : PersistentData} (loads : Loads codec io content data)
    (atMostOne : filter.instanceNames.eraseDups.length ≤ 1) :
    ((∃ value, ((Method.findInstanceWithGroup filter).run codec io content).1 = .ok value) ↔
        ∃ group inst, selected filter data = [(group, inst)] ∧ group.Valid) ∧
      ∀ value, ((Method.findInstanceWithGroup filter).run codec io content).1 = .ok value →
        ∃ inst found, value = .instanceWithGroup (inst, found) ∧
          selected filter data = [(found.proto, inst)] := by
  have ran : ((Method.findInstanceWithGroup filter).run codec io content).1 =
      Value.instanceWithGroup <$> findInstanceTask filter data := by
    rw [Method.run, if_pos atMostOne, withSharedLock_of_loads loads]
  rw [ran, ← matchingInstances_eq_selected atMostOne]
  rcases findInstanceTask_cases filter data with
    ⟨group, inst, only, valid, found⟩ | ⟨noneOnly, message, failed⟩
  · rw [found]
    refine ⟨iff_of_true ⟨_, rfl⟩ ⟨group, inst, only, valid⟩, ?_⟩
    intro value isValue
    exact ⟨inst, ⟨group, valid⟩, (Except.ok.inj isValue).symm, only⟩
  · rw [failed]
    constructor
    · refine iff_of_false ?_ noneOnly
      intro ok
      rcases ok with ⟨value, isValue⟩
      cases isValue
    · intro value isValue
      cases isValue

end

theorem loads_faultless (codec : MessageCodec PersistentData) (content : Bytes) :
    Loads codec .faultless content (codec.parseFromString content).2 := by
  rw [Loads, withSharedLock_faultless]

theorem findInstanceWithGroup_ok_iff_sample :
    ((∃ value, ((Method.findInstanceWithGroup { groupName := some "a" }).run sampleCodec
            .faultless sampleWireA).1 = .ok value) ↔
        ∃ group inst, selected { groupName := some "a" } ⟨[sampleGroupA]⟩ = [(group, inst)] ∧
          group.Valid) ∧
      ∀ value, ((Method.findInstanceWithGroup { groupName := some "a" }).run sampleCodec
            .faultless sampleWireA).1 = .ok value →
        ∃ inst found, value = .instanceWithGroup (inst, found) ∧
          selected { groupName := some "a" } ⟨[sampleGroupA]⟩ = [(found.proto, inst)] :=
  findInstanceWithGroup_ok_iff (loads_faultless sampleCodec sampleWireA) (by decide)

def unassignedGroup : InstanceGroup :=
  { sampleGroupA with instances := [⟨0, "1", .preparing, ""⟩] }

def unassignedWire : Bytes :=
  [0x0a, 0x0e, 0x0a, 0x01, 0x61, 0x12, 0x02, 0x2f, 0x61,
    0x32, 0x05, 0x12, 0x01, 0x31, 0x18, 0x01]

def unassignedCodec : MessageCodec PersistentData where
  parseFromString str :=
    if str = unassignedWire then (true, ⟨[unassignedGroup]⟩) else (str.isEmpty, ⟨[]⟩)
  serializeToString data :=
    if data = ⟨[unassignedGroup]⟩ then some unassignedWire
    else if data = ⟨[]⟩ then some []
    else none

/-- One instance has the given group name, and it is not found. -/
theorem findInstanceWithGroup_unassigned :
    selected { groupName := some "a" } (unassignedCodec.parseFromString unassignedWire).2 =
        [(unassignedGroup, ⟨0, "1", .preparing, ""⟩)] ∧
      ¬ ∃ value, ((Method.findInstanceWithGroup { groupName := some "a" }).run unassignedCodec
        .faultless unassignedWire).1 = .ok value := by
  have stored : (unassignedCodec.parseFromString unassignedWire).2 = ⟨[unassignedGroup]⟩ := by
    simp [unassignedCodec]
  rw [stored]
  constructor
  · simp [selected, devices, Filter.Selects, unassignedGroup, sampleGroupA]
  intro found
  rcases found with ⟨value, isValue⟩
  rw [Method.run, if_pos (by decide), withSharedLock_faultless, stored] at isValue
  rcases findInstanceTask_cases { groupName := some "a" } ⟨[unassignedGroup]⟩ with
    ⟨group, inst, only, valid, -⟩ | ⟨-, message, failed⟩
  · have isGroup : group = unassignedGroup := by
      have first := (List.cons.inj only).1
      exact (Prod.mk.inj first).1.symm
    have positive := valid.positive 0 (by rw [isGroup]; exact List.mem_singleton_self _)
    exact absurd positive (by decide)
  · rw [failed] at isValue
    cases isValue

/-! ## Default names -/

theorem isValidGroupName_of_mem {count : Nat} {name : String}
    (member : name ∈ defaultGroupNames count) : isValidGroupName name = true := by
  rcases List.mem_map.mp member with ⟨index, -, isName⟩
  have chars : name.toList = 'c' :: 'v' :: 'd' :: '_' :: Nat.toDigits 10 (index + 1) := by
    rw [← isName, String.toList_append, String.toList_append]
    exact congrArg _ Nat.toList_repr
  rw [isValidGroupName, chars]
  have digits : (Nat.toDigits 10 (index + 1)).all isNameChar = true := by
    rw [List.all_eq_true]
    intro char isDigit
    have digit := Nat.isDigit_of_mem_toDigits (by decide) (by decide) isDigit
    rw [isNameChar, digit, Bool.or_true]
  change (isNameStart 'c' && (isNameChar 'v' && (isNameChar 'd' && (isNameChar '_' &&
    (Nat.toDigits 10 (index + 1)).all isNameChar)))) = true
  rw [digits]
  decide

theorem mem_of_genUniqueGroupName {data : PersistentData} {name : String}
    (generated : genUniqueGroupName data = .ok name) :
    name ∈ defaultGroupNames ((groupNames data).length + 1) := by
  rw [genUniqueGroupName] at generated
  split at generated
  · next found =>
      cases generated
      exact List.mem_of_find?_eq_some found
  · cases generated

/-- The group is refused for a name of an instance, its home directory or an instance id. -/
def Refused (group : InstanceGroup) (data : PersistentData) : Prop :=
  (∃ inst ∈ group.instances, isValidInstanceName inst.name = false) ∨
    SharesHome group data.instanceGroups ∨ SharesId group data.instanceGroups

/-- A task that stores the group and cannot fail. -/
def storeTask (group : InstanceGroup) (data : PersistentData) :
    Result (InstanceGroup × PersistentData) :=
  .ok (group, { instanceGroups := data.instanceGroups ++ [group] })

theorem addTask_generated {group : InstanceGroup} (unnamed : group.name = "")
    {data : PersistentData} {name : String} (generated : genUniqueGroupName data = .ok name)
    (nonempty : name ≠ "") :
    addTask group data = addTask { group with name } data := by
  have chosen : chooseName group data = .ok name := by
    rw [chooseName, unnamed, generated]
    rfl
  have kept : chooseName { group with name } data = .ok name := by
    rw [chooseName, if_neg]
    rw [Bool.not_eq_true, ← Bool.not_eq_true, String.isEmpty_iff]
    exact nonempty
  rw [addTask, addTask, chosen, kept]

theorem addTask_unnamed {group : InstanceGroup} (unnamed : group.name = "")
    {data : PersistentData} {name : String} (generated : genUniqueGroupName data = .ok name)
    (nonempty : name ≠ "") (fresh : ∀ stored ∈ data.instanceGroups, stored.name ≠ name) :
    (SharesHome group data.instanceGroups ∨ SharesId group data.instanceGroups) ∧
        (∃ message, addTask group data = .error (.err message)) ∨
      ¬ SharesHome group data.instanceGroups ∧ ¬ SharesId group data.instanceGroups ∧
        addTask group data = storeTask { group with name } data := by
  rw [addTask_generated unnamed generated nonempty]
  rcases addTask_cases { group with name } data with ⟨other, chosen, outcome⟩
  rw [ChosenName, if_neg nonempty] at chosen
  rw [chosen] at outcome
  rcases outcome with ⟨⟨stored, member, sameName, -⟩, -⟩ | ⟨⟨stored, member, sameName⟩, -⟩ |
    ⟨-, shares, failed⟩ | ⟨-, home, id, added⟩
  · exact absurd sameName (fresh stored member)
  · exact absurd sameName (fresh stored member)
  · exact .inl ⟨shares, failed⟩
  · exact .inr ⟨home, id, added⟩

/-- A group without a name is stored under a fresh and valid one, whatever names are taken. -/
theorem addInstanceGroup_unnamed (codec : MessageCodec PersistentData) (io : Io)
    (content : Bytes) (group : LocalInstanceGroup) (unnamed : group.proto.name = "") :
    ∃ name, genUniqueGroupName (codec.parseFromString content).2 = .ok name ∧
      (∀ stored ∈ (codec.parseFromString content).2.instanceGroups, stored.name ≠ name) ∧
      isValidGroupName name = true ∧
      (¬ Refused group.proto (codec.parseFromString content).2 →
        (Method.addInstanceGroup group).run codec io content =
          ((fun _ => .unit) <$> (withExclusiveLock codec io
              (storeTask { group.proto with name }) content).1,
            (withExclusiveLock codec io (storeTask { group.proto with name }) content).2)) := by
  rcases genUniqueGroupName_eq_ok (codec.parseFromString content).2 with
    ⟨name, generated, nonempty, fresh⟩
  refine ⟨name, generated, fresh, isValidGroupName_of_mem (mem_of_genUniqueGroupName generated),
    ?_⟩
  intro accepted
  rw [Refused, not_or, not_or, not_exists] at accepted
  rcases accepted with ⟨instanceNames, home, id⟩
  have checked : checkNames group.proto = .ok () := by
    rcases checkNames_cases group.proto with ⟨-, ok⟩ | ⟨invalid, -⟩
    · exact ok
    · refine absurd ⟨.inl unnamed, ?_⟩ invalid
      intro inst member
      rw [← Bool.not_eq_false]
      exact fun isFalse => instanceNames inst ⟨member, isFalse⟩
  have added : addTask group.proto (codec.parseFromString content).2 =
      storeTask { group.proto with name } (codec.parseFromString content).2 := by
    rcases addTask_unnamed unnamed generated nonempty fresh with ⟨shares, -⟩ | ⟨-, -, added⟩
    · exact absurd shares (not_or.mpr ⟨home, id⟩)
    · exact added
  rw [← withExclusiveLock_congr added, Method.run, checked]

theorem addInstanceGroup_unnamed_sample :
    ∃ name, genUniqueGroupName ⟨[sampleGroupA]⟩ = .ok name ∧
      (∀ stored ∈ [sampleGroupA], stored.name ≠ name) ∧ isValidGroupName name = true ∧
      (¬ Refused { sampleGroupB with name := "" } ⟨[sampleGroupA]⟩ →
        (Method.addInstanceGroup (LocalInstanceGroup.withName ⟨sampleGroupB, sampleGroupB_valid⟩
              "")).run sampleCodec .faultless sampleWireA =
          ((fun _ => .unit) <$> (withExclusiveLock sampleCodec .faultless
              (storeTask { sampleGroupB with name }) sampleWireA).1,
            (withExclusiveLock sampleCodec .faultless
              (storeTask { sampleGroupB with name }) sampleWireA).2)) :=
  addInstanceGroup_unnamed sampleCodec .faultless sampleWireA
    (LocalInstanceGroup.withName ⟨sampleGroupB, sampleGroupB_valid⟩ "") rfl

end InstanceDatabase

end Cuttlefish.Instances
