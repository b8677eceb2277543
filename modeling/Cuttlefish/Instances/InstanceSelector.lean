import Cuttlefish.Instances.InstanceDatabase

/-! # Selecting an instance

`SelectInstance` of `host/commands/cvd/cli/selector`: an instance is found by the selectors on the
command line and the environment. -/

namespace Cuttlefish.Instances.InstanceSelector

open InstanceDatabase

structure SelectorOptions where
  groupName : Option String
  instanceNames : Option (List String)

namespace SelectorOptions

variable (selectors : SelectorOptions)

def names : List String := selectors.instanceNames.getD []

def Absent : Prop := selectors.groupName = none ∧ selectors.names = []

instance : Decidable selectors.Absent := inferInstanceAs (Decidable (_ ∧ _))

end SelectorOptions

abbrev Envs := String → Option String

def kCuttlefishInstanceEnvVarName : String := "CUTTLEFISH_INSTANCE"

def filterEmpty (filter : Filter) : Bool :=
  filter.instanceId.isNone && filter.groupName.isNone && filter.instanceNames.isEmpty

section Absl

-- `absl::SimpleAtoi` to an `unsigned`
variable (simpleAtoi : String → Option UInt32)

def buildFilterFromSelectors (selectors : SelectorOptions) (env : Envs) : Result Filter :=
  let filter : Filter := { groupName := selectors.groupName, instanceNames := selectors.names }
  match env kCuttlefishInstanceEnvVarName with
  | none => .ok filter
  | some cuttlefishInstance =>
      match simpleAtoi cuttlefishInstance with
      | none => .error (.err "absl::SimpleAtoi(cuttlefish_instance, &id)")
      | some _id => .ok filter

def getDefaultGroup (data : PersistentData) : Result LocalInstanceGroup := do
  let allGroups ← findGroupsIn {} data.instanceGroups
  match allGroups with
  | [group] => .ok group
  | _ => .error (.err ("There are " ++ toString allGroups.length ++
      " instance groups, unable to pick one"))

def findDefaultInstance (data : PersistentData) : Result (Instance × LocalInstanceGroup) := do
  let group ← getDefaultGroup data
  match group.proto.instances with
  | [inst] => .ok (inst, group)
  | _ => .error (.err "Default instance is the single instance in the default group.")

def findInstanceWithGroup (filter : Filter) (data : PersistentData) :
    Result (Instance × LocalInstanceGroup) :=
  if filter.instanceNames.eraseDups.length ≤ 1 then findInstanceTask filter data
  else
    .error (.err ("Can't find single instance when multiple names specified: " ++
      toString filter.instanceNames.eraseDups.length))

def findWithFilter (filter : Filter) (data : PersistentData) :
    Result (Instance × LocalInstanceGroup) :=
  if filterEmpty filter then findDefaultInstance data else findInstanceWithGroup filter data

def selectInstance (data : PersistentData) (selectors : SelectorOptions) (env : Envs) :
    Result (Instance × LocalInstanceGroup) := do
  let filter ← buildFilterFromSelectors simpleAtoi selectors env
  findWithFilter filter data

/-! ## What the selectors ask for -/

def devices (data : PersistentData) : List (InstanceGroup × Instance) :=
  data.instanceGroups.flatMap fun group => group.instances.map fun inst => (group, inst)

def Selects (selectors : SelectorOptions) (device : InstanceGroup × Instance) : Prop :=
  (∀ name ∈ selectors.groupName, name = device.1.name) ∧
    ∀ name ∈ selectors.names, name = device.2.name

instance (selectors : SelectorOptions) (device : InstanceGroup × Instance) :
    Decidable (Selects selectors device) := inferInstanceAs (Decidable (_ ∧ _))

def only : List α → Option α
  | [element] => some element
  | _ => none

/-- The only match of the selectors; without selectors, the only instance of the only group. -/
def wanted (selectors : SelectorOptions) (data : PersistentData) :
    Option (InstanceGroup × Instance) :=
  if selectors.Absent then
    (only data.instanceGroups).bind fun group =>
      (only group.instances).map fun inst => (group, inst)
  else only ((devices data).filter (Selects selectors ·))

/-- The only match of the selectors with this id. -/
def numbered (selectors : SelectorOptions) (data : PersistentData) (id : UInt32) :
    Option (InstanceGroup × Instance) :=
  only ((devices data).filter fun device => Selects selectors device ∧ device.2.id = id)

def requestedId (env : Envs) : Option UInt32 :=
  (env kCuttlefishInstanceEnvVarName).bind simpleAtoi

/-- The instance that is returned is the one that the selectors and the environment ask for. -/
structure Honours (data : PersistentData) (selectors : SelectorOptions) (env : Envs)
    (result : Result (Instance × LocalInstanceGroup)) : Prop where
  requested : ∀ id, requestedId simpleAtoi env = some id → ∀ inst group,
    result = .ok (inst, group) →
      inst.id = id ∧ Selects selectors (group.proto, inst) ∧ (group.proto, inst) ∈ devices data
  selected : ∀ id, requestedId simpleAtoi env = some id → ∀ inst group,
    numbered selectors data id = some (group.proto, inst) → result = .ok (inst, group)
  missing : ∀ id, requestedId simpleAtoi env = some id →
    (∀ device ∈ devices data, Selects selectors device → device.2.id ≠ id) → result.ReturnsError
  unrequested : env kCuttlefishInstanceEnvVarName = none → ∀ inst group,
    result = .ok (inst, group) ↔ wanted selectors data = some (group.proto, inst)

/-- The selectors alone ask for an instance with this id, or for none, and for the only one of
their matches that has this id, if there is such a one. Without selectors, a group that is not
valid ends the process: then there must be an instance with this id. -/
structure AsksFor (selectors : SelectorOptions) (data : PersistentData) (id : UInt32) : Prop where
  wanted : ∀ device, wanted selectors data = some device → device.1.Valid → device.2.id = id
  numbered : ∀ device, numbered selectors data id = some device → device.1.Valid →
    InstanceSelector.wanted selectors data = some device
  present : selectors.Absent → (∃ group ∈ data.instanceGroups, ¬ group.Valid) →
    ∃ device ∈ devices data, device.2.id = id

end Absl

/-! ## Lists with one element -/

theorem only_eq_some {elements : List α} {element : α} :
    only elements = some element ↔ elements = [element] := by
  match elements with
  | [] => simp [only]
  | [first] => simp [only]
  | first :: second :: rest => simp [only]

/-! ## Finding the only match -/

def filterOf (selectors : SelectorOptions) : Filter where
  groupName := selectors.groupName
  instanceNames := selectors.names

theorem instanceMatches_iff {selectors : SelectorOptions} (single : selectors.names.length ≤ 1)
    (inst : Instance) :
    instanceMatches inst (filterOf selectors) = true ↔
      ∀ name ∈ selectors.names, name = inst.name := by
  simp only [instanceMatches, filterOf, Bool.true_and]
  match named : selectors.names with
  | [] => simp
  | [name] =>
      simp only [List.isEmpty_cons, Bool.false_or, List.contains_iff_mem, List.mem_singleton,
        forall_eq]
      exact eq_comm
  | first :: second :: rest =>
      rw [named] at single
      simp at single

theorem groupMatches_iff (selectors : SelectorOptions) (group : InstanceGroup) :
    groupMatches group (filterOf selectors) = true ↔
      (∀ name ∈ selectors.groupName, name = group.name) ∧
        ∀ name ∈ selectors.names, name ∈ group.instanceNames := by
  cases named : selectors.groupName <;> simp [groupMatches, filterOf, named]

theorem matchingInstances_eq {selectors : SelectorOptions} (single : selectors.names.length ≤ 1)
    (data : PersistentData) :
    matchingInstances (filterOf selectors) data =
      (devices data).filter (Selects selectors ·) := by
  rw [matchingInstances, devices]
  induction data.instanceGroups with
  | nil => rfl
  | cons group groups induction =>
      have inGroup : ((group.instances.map fun inst => (group, inst)).filter
          (Selects selectors ·)) =
            if groupMatches group (filterOf selectors) then
              (group.instances.filter (instanceMatches · (filterOf selectors))).map
                fun inst => (group, inst)
            else [] := by
        rw [List.filter_map]
        split
        · rename_i selected
          congr 1
          apply List.filter_congr
          intro inst _member
          apply Bool.eq_iff_iff.mpr
          have groupNamed := ((groupMatches_iff selectors group).mp selected).1
          change decide (Selects selectors (group, inst)) = true ↔ _
          rw [instanceMatches_iff single, decide_eq_true_eq]
          exact ⟨And.right, fun names => ⟨groupNamed, names⟩⟩
        · rename_i notSelected
          apply List.map_eq_nil_iff.mpr
          apply List.filter_eq_nil_iff.mpr
          intro inst member selects
          have names : Selects selectors (group, inst) := of_decide_eq_true selects
          apply notSelected
          rw [groupMatches_iff]
          refine ⟨names.1, fun name given => ?_⟩
          rw [names.2 name given]
          exact List.mem_map_of_mem member
      rw [List.flatMap_cons, List.filter_append, inGroup, ← induction, List.filter_cons]
      split
      · rw [List.flatMap_cons]
      · rfl

theorem create_eq_ok {group : InstanceGroup} {created : LocalInstanceGroup} :
    LocalInstanceGroup.create group = .ok created ↔ group = created.proto := by
  constructor
  · intro isOk
    by_cases valid : group.Valid
    · rw [LocalInstanceGroup.create_of_valid group valid] at isOk
      cases isOk
      rfl
    · rcases (LocalInstanceGroup.create_returnsError_iff group).mpr valid with ⟨message, failed⟩
      rw [failed] at isOk
      cases isOk
  · intro same
    subst same
    exact LocalInstanceGroup.create_of_valid _ created.valid

theorem onlyInstance_eq_ok {found : List (InstanceGroup × Instance)} {inst : Instance}
    {group : LocalInstanceGroup} :
    onlyInstance none found = .ok (inst, group) ↔ found = [(group.proto, inst)] := by
  match found with
  | [] => simp [onlyInstance]
  | [(stored, first)] =>
      rw [onlyInstance, Result.bind_eq_ok]
      simp only [onlyInstance, Except.ok.injEq, Prod.mk.injEq, List.cons.injEq, and_true]
      constructor
      · rintro ⟨created, isOk, rfl, rfl⟩
        exact ⟨create_eq_ok.mp isOk, rfl⟩
      · rintro ⟨same, rfl⟩
        exact ⟨group, create_eq_ok.mpr same, rfl, rfl⟩
  | (stored, first) :: second :: rest =>
      rw [onlyInstance, Result.bind_eq_ok]
      simp [onlyInstance]

theorem onlyInstance_not_abort (found : List (InstanceGroup × Instance)) (message : String) :
    onlyInstance none found ≠ .error (.abort message) := by
  match found with
  | [] => simp [onlyInstance]
  | (stored, first) :: rest =>
      rw [onlyInstance]
      by_cases valid : stored.Valid
      · rw [LocalInstanceGroup.create_of_valid stored valid]
        cases rest <;> simp [onlyInstance, bind, Except.bind]
      · rcases (LocalInstanceGroup.create_returnsError_iff stored).mpr valid with ⟨text, failed⟩
        rw [failed]
        simp [bind, Except.bind]

/-! ## The default instance -/

theorem groupMatches_empty (group : InstanceGroup) : groupMatches group {} = true := by
  simp [groupMatches]

theorem findGroupsIn_empty (data : PersistentData) :
    ((∃ group ∈ data.instanceGroups, ¬ group.Valid) ∧
      ∃ message, findGroupsIn {} data.instanceGroups = .error (.abort message)) ∨
    ((∀ group ∈ data.instanceGroups, group.Valid) ∧
      ∃ found, findGroupsIn {} data.instanceGroups = .ok found ∧
        found.map LocalInstanceGroup.proto = data.instanceGroups) := by
  have all : data.instanceGroups.filter (groupMatches · {}) = data.instanceGroups :=
    List.filter_eq_self.mpr fun group _ => groupMatches_empty group
  rcases findGroupsIn_cases {} data.instanceGroups with
    ⟨⟨group, member, -, invalid⟩, aborts⟩ | ⟨valid, found, isOk, protos⟩
  · exact .inl ⟨⟨group, member, invalid⟩, aborts⟩
  · rw [all] at protos
    exact .inr ⟨fun group member => valid group member (groupMatches_empty group),
      found, isOk, protos⟩

theorem getDefaultGroup_eq_ok {data : PersistentData} {group : LocalInstanceGroup} :
    getDefaultGroup data = .ok group ↔ data.instanceGroups = [group.proto] := by
  rw [getDefaultGroup]
  rcases findGroupsIn_empty data with ⟨⟨bad, member, invalid⟩, message, aborts⟩ |
    ⟨-, found, isOk, protos⟩
  · rw [aborts]
    apply iff_of_false
    · intro returned
      cases returned
    · intro single
      rw [single, List.mem_singleton] at member
      exact invalid (member ▸ group.valid)
  · rw [isOk, ← protos]
    match found with
    | [] => simp [bind, Except.bind]
    | [first] =>
        simp only [bind, Except.bind, Except.ok.injEq, List.map_cons, List.map_nil,
          List.cons.injEq, and_true]
        exact ⟨fun same => same ▸ rfl, LocalInstanceGroup.ext⟩
    | first :: second :: rest => simp [bind, Except.bind]

theorem findDefaultInstance_eq_ok {data : PersistentData} {inst : Instance}
    {group : LocalInstanceGroup} :
    findDefaultInstance data = .ok (inst, group) ↔
      data.instanceGroups = [group.proto] ∧ group.proto.instances = [inst] := by
  have single (default : LocalInstanceGroup) :
      (match default.proto.instances with
        | [inst] => (.ok (inst, default) : Result (Instance × LocalInstanceGroup))
        | _ => .error (.err "Default instance is the single instance in the default group.")) =
          .ok (inst, group) ↔ default = group ∧ default.proto.instances = [inst] := by
    match default.proto.instances with
    | [] => simp
    | [first] => simp [and_comm]
    | first :: second :: rest => simp
  rw [findDefaultInstance, Result.bind_eq_ok]
  constructor
  · rintro ⟨default, isDefault, returned⟩
    rcases (single default).mp returned with ⟨rfl, instances⟩
    exact ⟨getDefaultGroup_eq_ok.mp isDefault, instances⟩
  · rintro ⟨groups, instances⟩
    exact ⟨group, getDefaultGroup_eq_ok.mpr groups, (single group).mpr ⟨rfl, instances⟩⟩

theorem findDefaultInstance_abort_iff (data : PersistentData) :
    (∃ message, findDefaultInstance data = .error (.abort message)) ↔
      ∃ group ∈ data.instanceGroups, ¬ group.Valid := by
  rw [findDefaultInstance, getDefaultGroup]
  rcases findGroupsIn_empty data with ⟨invalid, message, aborts⟩ | ⟨valid, found, isOk, -⟩
  · rw [aborts]
    exact iff_of_true ⟨message, rfl⟩ invalid
  · rw [isOk]
    apply iff_of_false
    · rintro ⟨message, aborts⟩
      match found with
      | [] => simp [bind, Except.bind] at aborts
      | [first] =>
          simp only [bind, Except.bind] at aborts
          split at aborts <;> simp at aborts
      | first :: second :: rest => simp [bind, Except.bind] at aborts
    · rintro ⟨group, member, invalid⟩
      exact invalid (valid group member)

/-! ## Finding with a filter -/

theorem filterEmpty_filterOf (selectors : SelectorOptions) :
    filterEmpty (filterOf selectors) = true ↔ selectors.Absent := by
  simp [filterEmpty, filterOf, SelectorOptions.Absent]

theorem findInstanceWithGroup_filterOf {selectors : SelectorOptions}
    (single : selectors.names.length ≤ 1) (data : PersistentData) :
    findInstanceWithGroup (filterOf selectors) data =
      onlyInstance none ((devices data).filter (Selects selectors ·)) := by
  have once : (filterOf selectors).instanceNames.eraseDups.length ≤ 1 := by
    match named : selectors.names with
    | [] => simp [filterOf, named]
    | [name] => simp [filterOf, named, List.eraseDups_cons]
    | first :: second :: rest =>
        rw [named] at single
        simp at single
  rw [findInstanceWithGroup, if_pos once, findInstanceTask, matchingInstances_eq single]

theorem findWithFilter_eq_ok {selectors : SelectorOptions}
    (single : selectors.names.length ≤ 1) {data : PersistentData} {inst : Instance}
    {group : LocalInstanceGroup} :
    findWithFilter (filterOf selectors) data = .ok (inst, group) ↔
      wanted selectors data = some (group.proto, inst) := by
  rw [findWithFilter, wanted]
  by_cases absent : selectors.Absent
  · rw [if_pos ((filterEmpty_filterOf selectors).mpr absent), if_pos absent,
      findDefaultInstance_eq_ok]
    simp only [Option.bind_eq_some_iff, Option.map_eq_some_iff, only_eq_some, Prod.mk.injEq]
    constructor
    · rintro ⟨groups, instances⟩
      exact ⟨group.proto, groups, inst, instances, rfl, rfl⟩
    · rintro ⟨_, groups, _, instances, rfl, rfl⟩
      exact ⟨groups, instances⟩
  · rw [if_neg (mt (filterEmpty_filterOf selectors).mp absent), if_neg absent,
      findInstanceWithGroup_filterOf single, onlyInstance_eq_ok, only_eq_some]

theorem findWithFilter_abort_iff {selectors : SelectorOptions}
    (single : selectors.names.length ≤ 1) (data : PersistentData) :
    (∃ message, findWithFilter (filterOf selectors) data = .error (.abort message)) ↔
      selectors.Absent ∧ ∃ group ∈ data.instanceGroups, ¬ group.Valid := by
  rw [findWithFilter]
  by_cases absent : selectors.Absent
  · rw [if_pos ((filterEmpty_filterOf selectors).mpr absent), findDefaultInstance_abort_iff]
    exact (and_iff_right absent).symm
  · rw [if_neg (mt (filterEmpty_filterOf selectors).mp absent),
      findInstanceWithGroup_filterOf single]
    apply iff_of_false
    · rintro ⟨message, aborts⟩
      exact onlyInstance_not_abort _ message aborts
    · exact fun condition => absent condition.1

theorem wanted_selects {selectors : SelectorOptions} {data : PersistentData}
    {device : InstanceGroup × Instance} (asked : wanted selectors data = some device) :
    device ∈ devices data ∧ Selects selectors device := by
  rw [wanted] at asked
  split at asked
  · rename_i absent
    obtain ⟨group, groups, inst, instances, rfl⟩ :
        ∃ group, data.instanceGroups = [group] ∧ ∃ inst, group.instances = [inst] ∧
          (group, inst) = device := by
      simpa [Option.bind_eq_some_iff, only_eq_some] using asked
    constructor
    · simp [devices, groups, instances]
    · simp [Selects, absent.1, absent.2]
  · have member : device ∈ (devices data).filter (Selects selectors ·) := by
      rw [only_eq_some.mp asked]
      exact List.mem_singleton_self device
    exact ⟨(List.mem_filter.mp member).1, of_decide_eq_true (List.mem_filter.mp member).2⟩

variable {simpleAtoi : String → Option UInt32}

theorem selectInstance_of_requested {env : Envs} {id : UInt32}
    (requested : requestedId simpleAtoi env = some id) (data : PersistentData)
    (selectors : SelectorOptions) :
    selectInstance simpleAtoi data selectors env = findWithFilter (filterOf selectors) data := by
  rcases Option.bind_eq_some_iff.mp requested with ⟨text, given, read⟩
  simp only [selectInstance, buildFilterFromSelectors, given, read]
  rfl

theorem selectInstance_of_unrequested {env : Envs}
    (unrequested : env kCuttlefishInstanceEnvVarName = none) (data : PersistentData)
    (selectors : SelectorOptions) :
    selectInstance simpleAtoi data selectors env = findWithFilter (filterOf selectors) data := by
  simp only [selectInstance, buildFilterFromSelectors, unrequested]
  rfl

/-- The selection honours the environment exactly where the selectors alone ask for the instance
with that id. -/
theorem selectInstance_honours_iff (simpleAtoi : String → Option UInt32) (data : PersistentData)
    {selectors : SelectorOptions} (single : selectors.names.length ≤ 1) (env : Envs) :
    Honours simpleAtoi data selectors env (selectInstance simpleAtoi data selectors env) ↔
      ∀ id, requestedId simpleAtoi env = some id → AsksFor selectors data id := by
  constructor
  · intro honours id requested
    have found := selectInstance_of_requested requested data selectors
    rw [found] at honours
    constructor
    · intro device asked valid
      exact (honours.requested id requested device.2 ⟨device.1, valid⟩
        ((findWithFilter_eq_ok single).mpr asked)).1
    · intro device isNumbered valid
      exact (findWithFilter_eq_ok single).mp
        (honours.selected id requested device.2 ⟨device.1, valid⟩ isNumbered)
    · intro absent invalid
      rcases (findWithFilter_abort_iff single data).mpr ⟨absent, invalid⟩ with ⟨message, aborts⟩
      apply Classical.byContradiction
      intro missing
      have returnsError := honours.missing id requested fun device member _ same =>
        missing ⟨device, member, same⟩
      rw [aborts] at returnsError
      exact Result.returnsError_abort message returnsError
  · intro asks
    constructor
    · intro id requested inst group returned
      rw [selectInstance_of_requested requested] at returned
      have asked := (findWithFilter_eq_ok single).mp returned
      rcases wanted_selects asked with ⟨member, selects⟩
      exact ⟨(asks id requested).wanted _ asked group.valid, selects, member⟩
    · intro id requested inst group isNumbered
      rw [selectInstance_of_requested requested]
      exact (findWithFilter_eq_ok single).mpr
        ((asks id requested).numbered _ isNumbered group.valid)
    · intro id requested missing
      rw [selectInstance_of_requested requested]
      match outcome : findWithFilter (filterOf selectors) data with
      | .ok (inst, group) =>
          have asked := (findWithFilter_eq_ok single).mp outcome
          rcases wanted_selects asked with ⟨member, selects⟩
          exact absurd ((asks id requested).wanted _ asked group.valid)
            (missing _ member selects)
      | .error (.err message) => exact Result.returnsError_err message
      | .error (.abort message) =>
          rcases (findWithFilter_abort_iff single data).mp ⟨message, outcome⟩ with ⟨absent, invalid⟩
          rcases (asks id requested).present absent invalid with ⟨device, member, same⟩
          exact absurd same (missing device member (by simp [Selects, absent.1, absent.2]))
    · intro unrequested inst group
      rw [selectInstance_of_unrequested unrequested]
      exact findWithFilter_eq_ok single

def noSelectors : SelectorOptions := ⟨none, none⟩

/-- An environment with this number, and a reader of it. -/
def envWith (text : String) : Envs := fun name =>
  if name = kCuttlefishInstanceEnvVarName then some text else none

def sampleAtoi (text : String) : Option UInt32 :=
  if text = "1" then some 1 else if text = "2" then some 2 else none

theorem selectInstance_honours_first :
    Honours sampleAtoi ⟨[sampleGroupA]⟩ noSelectors (envWith "1")
      (selectInstance sampleAtoi ⟨[sampleGroupA]⟩ noSelectors (envWith "1")) := by
  apply (selectInstance_honours_iff sampleAtoi ⟨[sampleGroupA]⟩ (by decide) (envWith "1")).mpr
  intro id requested
  have one : (1 : UInt32) = id := by simpa [requestedId, envWith, sampleAtoi] using requested
  subst one
  constructor
  · intro device asked _valid
    have same : (sampleGroupA, (⟨1, "1", .preparing, ""⟩ : Instance)) = device :=
      Option.some.inj asked
    subst same
    rfl
  · intro device isNumbered _valid
    exact isNumbered
  · intro _absent _invalid
    exact ⟨(sampleGroupA, ⟨1, "1", .preparing, ""⟩), by decide, rfl⟩

def groupOfTwo : InstanceGroup :=
  { sampleGroupA with instances := [⟨1, "1", .preparing, ""⟩, ⟨2, "2", .preparing, ""⟩] }

theorem groupOfTwo_valid : groupOfTwo.Valid where
  nonempty := by decide
  positive id member := by
    rcases List.mem_cons.mp member with isFirst | isLater
    · rw [isFirst]
      decide
    · rw [List.mem_singleton.mp isLater]
      decide
  ids := by decide
  names := by decide

theorem not_honours_of_other {data : PersistentData} (group : LocalInstanceGroup) (inst : Instance)
    (asked : wanted noSelectors data = some (group.proto, inst)) (different : inst.id ≠ 2) :
    ¬ Honours sampleAtoi data noSelectors (envWith "2")
      (selectInstance sampleAtoi data noSelectors (envWith "2")) := by
  intro honours
  have requested : requestedId sampleAtoi (envWith "2") = some 2 := rfl
  have found : selectInstance sampleAtoi data noSelectors (envWith "2") = .ok (inst, group) := by
    rw [selectInstance_of_requested requested]
    exact (findWithFilter_eq_ok (by decide)).mpr asked
  exact different (honours.requested 2 requested _ _ found).1

theorem not_honours_of_unasked {data : PersistentData} (group : LocalInstanceGroup)
    (inst : Instance) (isNumbered : numbered noSelectors data 2 = some (group.proto, inst))
    (unasked : wanted noSelectors data = none) :
    ¬ Honours sampleAtoi data noSelectors (envWith "2")
      (selectInstance sampleAtoi data noSelectors (envWith "2")) := by
  intro honours
  have requested : requestedId sampleAtoi (envWith "2") = some 2 := rfl
  have found := honours.selected 2 requested inst group isNumbered
  rw [selectInstance_of_requested requested, findWithFilter_eq_ok (by decide), unasked] at found
  cases found

/-- The environment names instance 2. Instance 1 is selected where it is the only one, and none
where both are there. -/
theorem other_instance_selected :
    ¬ Honours sampleAtoi ⟨[sampleGroupA]⟩ noSelectors (envWith "2")
      (selectInstance sampleAtoi ⟨[sampleGroupA]⟩ noSelectors (envWith "2")) ∧
    ¬ Honours sampleAtoi ⟨[groupOfTwo]⟩ noSelectors (envWith "2")
      (selectInstance sampleAtoi ⟨[groupOfTwo]⟩ noSelectors (envWith "2")) :=
  ⟨not_honours_of_other ⟨sampleGroupA, sampleGroupA_valid⟩ ⟨1, "1", .preparing, ""⟩ rfl (by decide),
    not_honours_of_unasked ⟨groupOfTwo, groupOfTwo_valid⟩ ⟨2, "2", .preparing, ""⟩ rfl rfl⟩

end Cuttlefish.Instances.InstanceSelector
