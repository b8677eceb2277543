import Cuttlefish.Foundation.Run
import Cuttlefish.Instances.DataViewer
import Cuttlefish.Instances.LocalInstanceGroup

/-! # The instance database

`InstanceDatabase` of `host/commands/cvd/instances`: the tasks its methods run
on the stored message, and the methods themselves on the backing file. -/

namespace Cuttlefish.Instances

/-! ## Names

`device_name.cpp`. -/

def isNameStart (char : Char) : Bool := char.isAlpha || char == '_'

def isNameChar (char : Char) : Bool := char.isAlpha || char == '_' || char.isDigit

def isValidGroupName (token : String) : Bool :=
  match token.toList with
  | [] => false
  | first :: rest => isNameStart first && rest.all isNameChar

def isValidInstanceName (token : String) : Bool :=
  token.isEmpty ||
    (token.toList.splitOn '-').all fun piece => !piece.isEmpty && piece.all isNameChar

namespace InstanceDatabase

structure Filter where
  instanceId : Option UInt32 := none
  groupName : Option String := none
  instanceNames : List String := []
  deriving DecidableEq, Repr

def unsetId : UInt32 := 0

def internalGroupName : String := "cvd"

/-! ## Tasks -/

def groupNames (data : PersistentData) : List String :=
  (data.instanceGroups.map InstanceGroup.name).eraseDups

def defaultGroupNames (count : Nat) : List String :=
  (List.range count).map fun index => internalGroupName ++ "_" ++ toString (index + 1)

def genUniqueGroupName (data : PersistentData) : Result String :=
  let names := groupNames data
  match (defaultGroupNames (names.length + 1)).find? fun name => !names.contains name with
  | some name => .ok name
  | none => .error (.err ("Can't generate unique group name: Somehow a set of size " ++
      toString names.length ++ " contains " ++ toString (names.length + 1) ++ " elements"))

def instanceMatches (inst : Instance) (filter : Filter) : Bool :=
  (match filter.instanceId with
    | none => true
    | some id => id == inst.id) &&
  (filter.instanceNames.isEmpty || filter.instanceNames.contains inst.name)

def groupMatches (group : InstanceGroup) (filter : Filter) : Bool :=
  (match filter.groupName with
    | none => true
    | some name => name == group.name) &&
  (match filter.instanceId with
    | none => true
    | some id => group.ids.contains id) &&
  filter.instanceNames.all fun name => group.instanceNames.contains name

/-- The private overload of `FindGroups`: a stored group that fails validation
fails a `CHECK`. -/
def findGroupsIn (filter : Filter) : List InstanceGroup → Result (List LocalInstanceGroup)
  | [] => .ok []
  | group :: rest =>
      if groupMatches group filter then
        match LocalInstanceGroup.create group with
        | .error _ => .error (.abort "Instance group from database fails validation")
        | .ok found => do
            let others ← findGroupsIn filter rest
            return found :: others
      else findGroupsIn filter rest

def idsToNames (data : PersistentData) : List (UInt32 × String) :=
  data.instanceGroups.flatMap fun group =>
    (group.instances.filter fun inst => inst.id != unsetId).map fun inst =>
      (inst.id, group.name ++ "/" ++ inst.name)

/-- The loop of `AddInstanceGroup` over the new instances. A later entry of the
map replaces an earlier one with the same id. -/
def checkIds (taken : List (UInt32 × String)) : List Instance → Result Unit
  | [] => .ok ()
  | inst :: rest =>
      if inst.id == unsetId then checkIds taken rest
      else
        match taken.reverse.lookup inst.id with
        | some device => .error (.err ("New instance conflicts with existing instance: " ++
            device ++ " with id " ++ toString inst.id))
        | none => checkIds taken rest

def chooseName (group : InstanceGroup) (data : PersistentData) : Result String :=
  if group.name.isEmpty then genUniqueGroupName data else .ok group.name

/-- The task of `AddInstanceGroup`. A group without a name is given one; the
caller's handle shares the message, so the named group is returned. -/
def addTask (group : InstanceGroup) (data : PersistentData) :
    Result (InstanceGroup × PersistentData) := do
  let name ← chooseName group data
  let group := { group with name }
  let sameName ← findGroupsIn { groupName := some name } data.instanceGroups
  cfExpect sameName.isEmpty ("An instance group already exists with name: " ++ name)
  cfExpect (data.instanceGroups.all fun existing =>
      existing.homeDirectory != group.homeDirectory)
    ("An instance group already exists with HOME directory: " ++ group.homeDirectory)
  checkIds (idsToNames data) group.instances
  return (group, { instanceGroups := data.instanceGroups ++ [group] })

def replaceGroup (group : InstanceGroup) : List InstanceGroup → Option (List InstanceGroup)
  | [] => none
  | stored :: rest =>
      if stored.name != group.name then (replaceGroup group rest).map (stored :: ·)
      else some (group :: rest)

def updateTask (group : InstanceGroup) (data : PersistentData) :
    Result (Unit × PersistentData) :=
  match replaceGroup group data.instanceGroups with
  | some instanceGroups => .ok ((), { instanceGroups })
  | none => .error (.err ("Group not found (name = " ++ group.name ++ ")"))

def eraseGroup (groupName : String) : List InstanceGroup → Option (List InstanceGroup)
  | [] => none
  | stored :: rest =>
      if stored.name == groupName then some rest
      else (eraseGroup groupName rest).map (stored :: ·)

def removeTask (groupName : String) (data : PersistentData) :
    Result (Bool × PersistentData) :=
  match eraseGroup groupName data.instanceGroups with
  | some instanceGroups => .ok (true, { instanceGroups })
  | none => .ok (false, data)

def clearTask (data : PersistentData) :
    Result (List LocalInstanceGroup × PersistentData) := do
  let groups ← data.instanceGroups.mapM LocalInstanceGroup.create
  return (groups, { instanceGroups := [] })

def isEmptyTask (data : PersistentData) : Result Bool :=
  .ok data.instanceGroups.isEmpty

def instanceGroupsTask (data : PersistentData) : Result (List LocalInstanceGroup) :=
  data.instanceGroups.mapM LocalInstanceGroup.create

def matchingInstances (filter : Filter) (data : PersistentData) :
    List (InstanceGroup × Instance) :=
  (data.instanceGroups.filter fun group => groupMatches group filter).flatMap fun group =>
    (group.instances.filter fun inst => instanceMatches inst filter).map fun inst =>
      (group, inst)

def onlyInstance : Option (Instance × LocalInstanceGroup) →
    List (InstanceGroup × Instance) → Result (Instance × LocalInstanceGroup)
  | some result, [] => .ok result
  | none, [] => .error (.err "Found no matches")
  | some _, _ :: _ => .error (.err "Found more than one instance")
  | none, (group, inst) :: rest => do
      let found ← LocalInstanceGroup.create group
      onlyInstance (some (inst, found)) rest

def findInstanceTask (filter : Filter) (data : PersistentData) :
    Result (Instance × LocalInstanceGroup) :=
  onlyInstance none (matchingInstances filter data)

def exactlyOne (found : List LocalInstanceGroup) : Result LocalInstanceGroup :=
  match found with
  | [group] => .ok group
  | _ => .error (.err "Expected unique result")

/-! ## What the tasks do -/

private theorem defaultGroupNames_nodup (count : Nat) : (defaultGroupNames count).Nodup := by
  have injective : ∀ left right : Nat,
      internalGroupName ++ "_" ++ toString (left + 1) =
        internalGroupName ++ "_" ++ toString (right + 1) → left = right := by
    intro left right equal
    have digits : Nat.toDigits 10 (left + 1) = Nat.toDigits 10 (right + 1) := by
      have characters := congrArg String.toList equal
      simpa [Nat.toList_repr, ToString.toString] using characters
    have numbers := congrArg (fun chars => Nat.ofDigitChars 10 chars 0) digits
    simp only [Nat.ofDigitChars_toDigits (b := 10) (by decide) (by decide)] at numbers
    omega
  apply List.pairwise_map.mpr
  apply List.Pairwise.imp ?_ List.nodup_range
  intro left right different equal
  exact different (injective left right equal)

theorem genUniqueGroupName_eq_ok (data : PersistentData) :
    ∃ name, genUniqueGroupName data = .ok name ∧ name ≠ "" ∧
      ∀ group ∈ data.instanceGroups, group.name ≠ name := by
  rw [genUniqueGroupName]
  generalize namesEq : groupNames data = names
  cases found : (defaultGroupNames (names.length + 1)).find? fun name =>
      !names.contains name with
  | none =>
      have taken : defaultGroupNames (names.length + 1) ⊆ names := by
        intro candidate member
        simpa using List.find?_eq_none.mp found candidate member
      have tooMany := (defaultGroupNames_nodup _).length_le_of_subset taken
      simp only [defaultGroupNames, List.length_map, List.length_range] at tooMany
      omega
  | some name =>
      refine ⟨name, rfl, ?_, ?_⟩
      · intro empty
        rcases List.mem_map.mp (List.mem_of_find?_eq_some found) with ⟨index, -, equal⟩
        have characters := congrArg String.toList (equal.trans empty)
        simp [internalGroupName] at characters
      · intro group member equal
        have free := List.find?_some found
        have stored : name ∈ names := by
          rw [← namesEq, groupNames, List.mem_eraseDups]
          exact List.mem_map.mpr ⟨group, member, equal⟩
        simp [stored] at free

theorem findGroupsIn_cases (filter : Filter) (groups : List InstanceGroup) :
    ((∃ group ∈ groups, groupMatches group filter = true ∧ ¬ group.Valid) ∧
      ∃ message, findGroupsIn filter groups = .error (.abort message)) ∨
    ((∀ group ∈ groups, groupMatches group filter = true → group.Valid) ∧
      ∃ found, findGroupsIn filter groups = .ok found ∧
        found.map LocalInstanceGroup.proto =
          groups.filter fun group => groupMatches group filter) := by
  induction groups with
  | nil => exact .inr ⟨by simp, [], rfl, rfl⟩
  | cons group rest induction =>
      by_cases selected : groupMatches group filter = true
      · by_cases valid : group.Valid
        · have created := LocalInstanceGroup.create_of_valid group valid
          rcases induction with ⟨⟨bad, member, selectedBad, invalid⟩, message, aborted⟩ |
            ⟨allValid, found, ok, protos⟩
          · refine .inl ⟨⟨bad, by simp [member], selectedBad, invalid⟩, message, ?_⟩
            simp [findGroupsIn, selected, created, aborted, bind, Except.bind]
          · refine .inr ⟨?_, ⟨group, valid⟩ :: found, ?_, ?_⟩
            · intro other member
              rcases List.mem_cons.mp member with equal | member
              · exact fun _ => equal ▸ valid
              · exact allValid other member
            · simp [findGroupsIn, selected, created, ok, bind, Except.bind, pure,
                Except.pure]
            · simp [selected, protos]
        · refine .inl ⟨⟨group, by simp, selected, valid⟩, ?_⟩
          rcases (LocalInstanceGroup.create_returnsError_iff group).mpr valid with
            ⟨message, failed⟩
          exact ⟨_, by simp [findGroupsIn, selected, failed]; rfl⟩
      · simp only [findGroupsIn, selected, Bool.false_eq_true, if_false, List.mem_cons,
          List.filter_cons]
        rcases induction with ⟨⟨bad, member, rest⟩, aborted⟩ | ⟨allValid, rest⟩
        · exact .inl ⟨⟨bad, .inr member, rest⟩, aborted⟩
        · refine .inr ⟨?_, rest⟩
          intro other member matches_
          rcases member with equal | member
          · exact absurd (equal ▸ matches_) selected
          · exact allValid other member matches_

theorem checkIds_cases (taken : List (UInt32 × String)) (instances : List Instance) :
    ((∃ inst ∈ instances, inst.id ≠ unsetId ∧ inst.id ∈ taken.map Prod.fst) ∧
      ∃ message, checkIds taken instances = .error (.err message)) ∨
    ((∀ inst ∈ instances, inst.id ≠ unsetId → inst.id ∉ taken.map Prod.fst) ∧
      checkIds taken instances = .ok ()) := by
  induction instances with
  | nil => exact .inr ⟨by simp, rfl⟩
  | cons inst rest induction =>
      by_cases unset : inst.id = unsetId
      · simp only [checkIds, unset, beq_self_eq_true, if_true]
        rcases induction with ⟨⟨bad, member, clash⟩, failed⟩ | ⟨free, ok⟩
        · exact .inl ⟨⟨bad, by simp [member], clash⟩, failed⟩
        · refine .inr ⟨?_, ok⟩
          intro other member
          rcases List.mem_cons.mp member with equal | member
          · exact fun set => absurd (equal ▸ unset) set
          · exact free other member
      · have checked : checkIds taken (inst :: rest) =
            match taken.reverse.lookup inst.id with
            | some device => .error (.err ("New instance conflicts with existing instance: " ++
                device ++ " with id " ++ toString inst.id))
            | none => checkIds taken rest := by
          simp [checkIds, unset]
        rw [checked]
        cases found : taken.reverse.lookup inst.id with
        | some device =>
            refine .inl ⟨⟨inst, by simp, unset, ?_⟩, _, rfl⟩
            rcases List.lookup_eq_some_iff.mp found with ⟨before, after, split, -⟩
            have member : (inst.id, device) ∈ taken.reverse := by simp [split]
            exact List.mem_map.mpr ⟨_, List.mem_reverse.mp member, rfl⟩
        | none =>
            have absent : inst.id ∉ taken.map Prod.fst := by
              intro member
              rcases List.mem_map.mp member with ⟨entry, stored, equal⟩
              have different := List.lookup_eq_none_iff.mp found entry
                (List.mem_reverse.mpr stored)
              simp [equal] at different
            rcases induction with ⟨⟨bad, member, clash⟩, failed⟩ | ⟨free, ok⟩
            · exact .inl ⟨⟨bad, by simp [member], clash⟩, failed⟩
            · refine .inr ⟨?_, ok⟩
              intro other member
              rcases List.mem_cons.mp member with equal | member
              · exact fun _ => equal ▸ absent
              · exact free other member

def SharesHome (group : InstanceGroup) (groups : List InstanceGroup) : Prop :=
  ∃ stored ∈ groups, stored.homeDirectory = group.homeDirectory

def SharesId (group : InstanceGroup) (groups : List InstanceGroup) : Prop :=
  ∃ stored ∈ groups, ∃ id ∈ stored.ids, id ≠ unsetId ∧ id ∈ group.ids

private theorem mem_idsToNames (data : PersistentData) (id : UInt32) :
    id ∈ (idsToNames data).map Prod.fst ↔
      ∃ stored ∈ data.instanceGroups, id ∈ stored.ids ∧ id ≠ unsetId := by
  simp only [idsToNames, List.map_flatMap, List.map_map, List.mem_flatMap, List.mem_map,
    List.mem_filter, bne_iff_ne, Function.comp_apply, InstanceGroup.ids]
  grind

private theorem sharesId_iff (group : InstanceGroup) (data : PersistentData) :
    SharesId group data.instanceGroups ↔
      ∃ inst ∈ group.instances, inst.id ≠ unsetId ∧
        inst.id ∈ (idsToNames data).map Prod.fst := by
  simp only [SharesId, mem_idsToNames]
  constructor
  · intro parts
    rcases parts with ⟨stored, member, id, inStored, set, inGroup⟩
    rcases List.mem_map.mp inGroup with ⟨inst, instMember, rfl⟩
    exact ⟨inst, instMember, set, stored, member, inStored, set⟩
  · intro parts
    rcases parts with ⟨inst, instMember, set, stored, member, inStored, -⟩
    exact ⟨stored, member, inst.id, inStored, set, List.mem_map.mpr ⟨inst, instMember, rfl⟩⟩

def ChosenName (group : InstanceGroup) (data : PersistentData) (name : String) : Prop :=
  if group.name = "" then name ≠ "" ∧ ∀ stored ∈ data.instanceGroups, stored.name ≠ name
  else name = group.name

theorem chooseName_eq_ok (group : InstanceGroup) (data : PersistentData) :
    ∃ name, ChosenName group data name ∧ chooseName group data = .ok name := by
  by_cases unnamed : group.name = ""
  · rcases genUniqueGroupName_eq_ok data with ⟨name, generated, fresh⟩
    refine ⟨name, ?_, by simp [chooseName, unnamed, generated]⟩
    simpa only [ChosenName, unnamed, if_true] using fresh
  · exact ⟨group.name, by simp [ChosenName, unnamed], by simp [chooseName, unnamed]⟩

theorem addTask_cases (group : InstanceGroup) (data : PersistentData) :
    ∃ name, ChosenName group data name ∧
      ((∃ stored ∈ data.instanceGroups, stored.name = name ∧ ¬ stored.Valid) ∧
        (∃ message, addTask group data = .error (.abort message)) ∨
      (∃ stored ∈ data.instanceGroups, stored.name = name) ∧
        (∀ stored ∈ data.instanceGroups, stored.name = name → stored.Valid) ∧
        (∃ message, addTask group data = .error (.err message)) ∨
      (∀ stored ∈ data.instanceGroups, stored.name ≠ name) ∧
        (SharesHome group data.instanceGroups ∨ SharesId group data.instanceGroups) ∧
        (∃ message, addTask group data = .error (.err message)) ∨
      (∀ stored ∈ data.instanceGroups, stored.name ≠ name) ∧
        ¬ SharesHome group data.instanceGroups ∧ ¬ SharesId group data.instanceGroups ∧
        addTask group data =
          .ok ({ group with name },
            { instanceGroups := data.instanceGroups ++ [{ group with name }] })) := by
  rcases chooseName_eq_ok group data with ⟨name, isChosen, nameOk⟩
  have sameName : ∀ stored : InstanceGroup,
      groupMatches stored { groupName := some name } = true ↔ stored.name = name := by
    intro stored
    simp only [groupMatches, List.all_nil, Bool.and_true, beq_iff_eq]
    exact eq_comm
  refine ⟨name, isChosen, ?_⟩
  rw [addTask]
  simp only [nameOk, bind, Except.bind]
  rcases findGroupsIn_cases { groupName := some name } data.instanceGroups with
    ⟨⟨bad, member, selected, invalid⟩, message, aborted⟩ | ⟨valid, found, ok, protos⟩
  · exact .inl ⟨⟨bad, member, (sameName bad).mp selected, invalid⟩, message, by
      simp only [aborted]⟩
  · simp only [sameName] at valid
    have foundEmpty : found.isEmpty = true ↔
        ∀ stored ∈ data.instanceGroups, stored.name ≠ name := by
      rw [List.isEmpty_iff, ← List.map_eq_nil_iff (f := LocalInstanceGroup.proto), protos,
        List.filter_eq_nil_iff]
      simp only [sameName]
    simp only [ok]
    by_cases fresh : ∀ stored ∈ data.instanceGroups, stored.name ≠ name
    · simp only [foundEmpty.mpr fresh, cfExpect_true]
      have homes : (data.instanceGroups.all fun existing =>
          existing.homeDirectory != group.homeDirectory) = true ↔
            ¬ SharesHome group data.instanceGroups := by
        simp [SharesHome]
      by_cases home : SharesHome group data.instanceGroups
      · have notAll : (data.instanceGroups.all fun existing =>
            existing.homeDirectory != group.homeDirectory) = false := by
          rw [← Bool.not_eq_true, homes]
          exact fun distinct => distinct home
        simp only [notAll, cfExpect_false]
        exact .inr (.inr (.inl ⟨fresh, .inl home, _, rfl⟩))
      · simp only [homes.mpr home, cfExpect_true]
        rcases checkIds_cases (idsToNames data) group.instances with
          ⟨clash, message, failed⟩ | ⟨free, ok⟩
        · exact .inr (.inr (.inl ⟨fresh, .inr ((sharesId_iff group data).mpr clash), message,
            by simp only [failed]⟩))
        · refine .inr (.inr (.inr ⟨fresh, home, ?_, by simp only [ok]; rfl⟩))
          intro shares
          rcases (sharesId_iff group data).mp shares with ⟨inst, member, set, taken⟩
          exact free inst member set taken
    · have notEmpty : found.isEmpty = false := by
        simpa using mt foundEmpty.mp fresh
      simp only [notEmpty, cfExpect_false]
      refine .inr (.inl ⟨?_, valid, _, rfl⟩)
      simpa using fresh

theorem replaceGroup_cases (group : InstanceGroup) (groups : List InstanceGroup) :
    (∀ stored ∈ groups, stored.name ≠ group.name) ∧ replaceGroup group groups = none ∨
    ∃ before stored after, groups = before ++ stored :: after ∧
      (∀ other ∈ before, other.name ≠ group.name) ∧ stored.name = group.name ∧
      replaceGroup group groups = some (before ++ group :: after) := by
  induction groups with
  | nil => exact .inl ⟨by simp, rfl⟩
  | cons first rest induction =>
      by_cases same : first.name = group.name
      · exact .inr ⟨[], first, rest, rfl, by simp, same, by simp [replaceGroup, same]⟩
      · rcases induction with ⟨absent, none_⟩ | ⟨before, stored, after, split, others, found, some_⟩
        · refine .inl ⟨?_, by simp [replaceGroup, same, none_]⟩
          intro stored member
          rcases List.mem_cons.mp member with equal | member
          · exact equal ▸ same
          · exact absent stored member
        · refine .inr ⟨first :: before, stored, after, by simp [split], ?_, found,
            by simp [replaceGroup, same, some_]⟩
          intro other member
          rcases List.mem_cons.mp member with equal | member
          · exact equal ▸ same
          · exact others other member

theorem eraseGroup_sublist {groupName : String} {groups remaining : List InstanceGroup}
    (erased : eraseGroup groupName groups = some remaining) :
    remaining.Sublist groups := by
  induction groups generalizing remaining with
  | nil => simp [eraseGroup] at erased
  | cons first rest induction =>
      by_cases same : first.name = groupName
      · have restEq : rest = remaining := by simpa [eraseGroup, same] using erased
        exact restEq ▸ List.sublist_cons_self first rest
      · cases tail : eraseGroup groupName rest with
        | none => simp [eraseGroup, same, tail] at erased
        | some shorter =>
            have remainingEq : first :: shorter = remaining := by
              simpa [eraseGroup, same, tail] using erased
            exact remainingEq ▸ (induction tail).cons_cons first

theorem mapM_create_cases (groups : List InstanceGroup) :
    ((∃ group ∈ groups, ¬ group.Valid) ∧
      ∃ message, groups.mapM LocalInstanceGroup.create = .error (.err message)) ∨
    ((∀ group ∈ groups, group.Valid) ∧
      ∃ handles, groups.mapM LocalInstanceGroup.create = .ok handles ∧
        handles.map LocalInstanceGroup.proto = groups) := by
  induction groups with
  | nil => exact .inr ⟨by simp, [], rfl, rfl⟩
  | cons group rest induction =>
      by_cases valid : group.Valid
      · have created := LocalInstanceGroup.create_of_valid group valid
        rcases induction with ⟨⟨bad, member, invalid⟩, message, failed⟩ |
          ⟨allValid, handles, ok, protos⟩
        · refine .inl ⟨⟨bad, by simp [member], invalid⟩, message, ?_⟩
          simp [List.mapM_cons, created, failed, bind, Except.bind]
        · refine .inr ⟨?_, ⟨group, valid⟩ :: handles, ?_, by simp [protos]⟩
          · intro other member
            rcases List.mem_cons.mp member with equal | member
            · exact equal ▸ valid
            · exact allValid other member
          · simp [List.mapM_cons, created, ok, bind, Except.bind, pure, Except.pure]
      · rcases (LocalInstanceGroup.create_returnsError_iff group).mpr valid with
          ⟨message, failed⟩
        refine .inl ⟨⟨group, by simp, valid⟩, message, ?_⟩
        simp [List.mapM_cons, failed, bind, Except.bind]

theorem findInstanceTask_cases (filter : Filter) (data : PersistentData) :
    (∃ group inst, matchingInstances filter data = [(group, inst)] ∧
      ∃ valid : group.Valid, findInstanceTask filter data = .ok (inst, ⟨group, valid⟩)) ∨
    ((¬ ∃ group inst, matchingInstances filter data = [(group, inst)] ∧ group.Valid) ∧
      ∃ message, findInstanceTask filter data = .error (.err message)) := by
  rw [findInstanceTask]
  cases matching : matchingInstances filter data with
  | nil => exact .inr ⟨by simp, _, rfl⟩
  | cons first rest =>
      rcases first with ⟨group, inst⟩
      by_cases valid : group.Valid
      · have created := LocalInstanceGroup.create_of_valid group valid
        cases rest with
        | nil =>
            exact .inl ⟨group, inst, rfl, valid, by
              simp [onlyInstance, created, bind, Except.bind]⟩
        | cons second others =>
            exact .inr ⟨by simp, _, by
              simp [onlyInstance, created, bind, Except.bind]; rfl⟩
      · rcases (LocalInstanceGroup.create_returnsError_iff group).mpr valid with
          ⟨message, failed⟩
        refine .inr ⟨?_, message, by simp [onlyInstance, failed, bind, Except.bind]⟩
        intro parts
        rcases parts with ⟨other, otherInst, equal, otherValid⟩
        simp only [List.cons.injEq, Prod.mk.injEq] at equal
        exact valid (equal.1.1 ▸ otherValid)

/-! ## Methods -/

/-- The database methods with their arguments. -/
inductive Method
  | isEmpty
  | clear
  | addInstanceGroup (group : LocalInstanceGroup)
  | updateInstanceGroup (group : LocalInstanceGroup)
  | removeInstanceGroup (groupName : String)
  | findGroups (filter : Filter)
  | findGroup (filter : Filter)
  | findInstanceWithGroup (filter : Filter)
  | instanceGroups
  deriving DecidableEq

/-- What a method returns. -/
inductive Value
  | unit
  | bool (value : Bool)
  | group (value : LocalInstanceGroup)
  | groups (value : List LocalInstanceGroup)
  | instanceWithGroup (value : Instance × LocalInstanceGroup)
  deriving DecidableEq

def checkNames (group : InstanceGroup) : Result Unit := do
  cfExpect (group.name.isEmpty || isValidGroupName group.name)
    ("GroupName \"" ++ group.name ++ "\" is ill-formed.")
  group.instances.forM fun inst =>
    cfExpect (isValidInstanceName inst.name)
      ("instance_name \"" ++ inst.name ++ "\" is invalid")

open DataViewer in
/-- One method call on the backing file: what it returns and the content of the
file afterwards. -/
def Method.run (codec : MessageCodec PersistentData) (io : Io) (content : Bytes) :
    Method → Result Value × Bytes
  | .isEmpty => (.bool <$> withSharedLock codec io isEmptyTask content, content)
  | .clear =>
      let (res, content) := withExclusiveLock codec io clearTask content
      (.groups <$> res, content)
  | .addInstanceGroup group =>
      match checkNames group.proto with
      | .error failure => (.error failure, content)
      | .ok () =>
          let (res, content) := withExclusiveLock codec io (addTask group.proto) content
          ((fun _ => .unit) <$> res, content)
  | .updateInstanceGroup group =>
      let (res, content) := withExclusiveLock codec io (updateTask group.proto) content
      ((fun _ => .unit) <$> res, content)
  | .removeInstanceGroup groupName =>
      let (res, content) := withExclusiveLock codec io (removeTask groupName) content
      (.bool <$> res, content)
  | .findGroups filter =>
      (.groups <$> withSharedLock codec io
        (fun data => findGroupsIn filter data.instanceGroups) content, content)
  | .findGroup filter =>
      (.group <$> (withSharedLock codec io
        (fun data => findGroupsIn filter data.instanceGroups) content >>= exactlyOne),
        content)
  | .findInstanceWithGroup filter =>
      if filter.instanceNames.eraseDups.length ≤ 1 then
        (.instanceWithGroup <$> withSharedLock codec io (findInstanceTask filter) content,
          content)
      else
        (.error (.err ("Can't find single instance when multiple names specified: " ++
          toString filter.instanceNames.eraseDups.length)), content)
  | .instanceGroups => (.groups <$> withSharedLock codec io instanceGroupsTask content, content)

end InstanceDatabase

end Cuttlefish.Instances
