import Cuttlefish.Instances.InstanceDatabase

/-! # Uniqueness in the instance database

Which sequences of database calls keep group names, home directories and
instance ids distinct. Handles that the database returned stay usable after the
group they were taken from has changed or is gone. -/

namespace Cuttlefish.Instances.InstanceDatabase

/-- No name, home directory or instance id is used twice. -/
structure Unique (data : PersistentData) : Prop where
  names : (data.instanceGroups.map InstanceGroup.name).Nodup
  homes : (data.instanceGroups.map InstanceGroup.homeDirectory).Nodup
  ids : (data.instanceGroups.flatMap InstanceGroup.ids).Nodup
  instanceNames : ∀ group ∈ data.instanceGroups, group.instanceNames.Nodup

theorem Unique.of_perm {first second : List InstanceGroup} (perm : first.Perm second)
    (unique : Unique ⟨first⟩) : Unique ⟨second⟩ where
  names := (perm.map _).nodup_iff.mp unique.names
  homes := (perm.map _).nodup_iff.mp unique.homes
  ids := (perm.flatMap_right _).nodup_iff.mp unique.ids
  instanceNames group member := unique.instanceNames group (perm.mem_iff.mpr member)

private theorem flatMap_ids_sublist {first second : List InstanceGroup}
    (sub : first.Sublist second) :
    (first.flatMap InstanceGroup.ids).Sublist (second.flatMap InstanceGroup.ids) := by
  induction sub with
  | slnil => exact List.Sublist.refl _
  | cons group _ induction => exact induction.trans (List.sublist_append_right _ _)
  | cons_cons group _ induction => exact (List.Sublist.refl _).append induction

theorem Unique.of_sublist {first second : List InstanceGroup} (sub : first.Sublist second)
    (unique : Unique ⟨second⟩) : Unique ⟨first⟩ where
  names := unique.names.sublist (sub.map _)
  homes := unique.homes.sublist (sub.map _)
  ids := unique.ids.sublist (flatMap_ids_sublist sub)
  instanceNames group member := unique.instanceNames group (sub.subset member)

theorem unique_cons_iff (group : InstanceGroup) (valid : group.Valid)
    (groups : List InstanceGroup) :
    Unique ⟨group :: groups⟩ ↔
      Unique ⟨groups⟩ ∧
        ∀ other ∈ groups, other.name ≠ group.name ∧
          other.homeDirectory ≠ group.homeDirectory ∧ ∀ id ∈ other.ids, id ∉ group.ids := by
  constructor
  · intro unique
    refine ⟨unique.of_sublist (List.sublist_cons_self group groups), ?_⟩
    intro other member
    have names := (List.nodup_cons.mp unique.names).1
    have homes := (List.nodup_cons.mp unique.homes).1
    have ids := (List.nodup_append.mp unique.ids).2.2
    refine ⟨fun equal => names (List.mem_map.mpr ⟨other, member, equal⟩),
      fun equal => homes (List.mem_map.mpr ⟨other, member, equal⟩), ?_⟩
    intro id inOther inGroup
    exact ids id inGroup id (List.mem_flatMap.mpr ⟨other, member, inOther⟩) rfl
  · intro parts
    rcases parts with ⟨unique, free⟩
    refine ⟨?_, ?_, ?_, ?_⟩
    · refine List.nodup_cons.mpr ⟨?_, unique.names⟩
      intro taken
      rcases List.mem_map.mp taken with ⟨other, member, equal⟩
      exact (free other member).1 equal
    · refine List.nodup_cons.mpr ⟨?_, unique.homes⟩
      intro taken
      rcases List.mem_map.mp taken with ⟨other, member, equal⟩
      exact (free other member).2.1 equal
    · refine List.nodup_append.mpr ⟨valid.ids, unique.ids, ?_⟩
      intro id inGroup taken inOthers equal
      subst equal
      rcases List.mem_flatMap.mp inOthers with ⟨other, member, inOther⟩
      exact (free other member).2.2 id inOther inGroup
    · intro other member
      rcases List.mem_cons.mp member with equal | member
      · exact equal ▸ valid.names
      · exact unique.instanceNames other member

/-! ## Calls -/

/-- The stored data and the handles that callers hold. -/
structure Session where
  data : PersistentData
  handles : List LocalInstanceGroup
  deriving DecidableEq

def Session.empty : Session where
  data := ⟨[]⟩
  handles := []

/-- The calls that change the database or hand out handles. An update uses a
handle after changing it through its setters. -/
inductive Call
  | addInstanceGroup (group : LocalInstanceGroup)
  | updateInstanceGroup (handle : Nat) (changes : List LocalInstanceGroup.Setter)
  | removeInstanceGroup (groupName : String)
  | clear
  | findGroups (filter : Filter)
  | findInstanceWithGroup (filter : Filter)
  | instanceGroups
  deriving DecidableEq

/-- One call. A failed call leaves the stored data as it was; an update through
a handle that does not exist is no call. -/
def Session.step (session : Session) : Call → Option Session
  | .addInstanceGroup group =>
      match checkNames group.proto with
      | .error _ => some session
      | .ok () =>
          match addTask group.proto session.data with
          | .error _ => some session
          | .ok (named, data) =>
              some { data, handles := session.handles ++ [group.withName named.name] }
  | .updateInstanceGroup index changes =>
      match session.handles[index]? with
      | none => none
      | some handle =>
          let handle := changes.foldl LocalInstanceGroup.set handle
          let handles := session.handles.set index handle
          match updateTask handle.proto session.data with
          | .error _ => some { session with handles }
          | .ok (_, data) => some { data, handles }
  | .removeInstanceGroup groupName =>
      match removeTask groupName session.data with
      | .error _ => some session
      | .ok (_, data) => some { session with data }
  | .clear =>
      match clearTask session.data with
      | .error _ => some session
      | .ok (groups, data) => some { data, handles := session.handles ++ groups }
  | .findGroups filter =>
      match findGroupsIn filter session.data.instanceGroups with
      | .error _ => some session
      | .ok found => some { session with handles := session.handles ++ found }
  | .findInstanceWithGroup filter =>
      if filter.instanceNames.eraseDups.length ≤ 1 then
        match findInstanceTask filter session.data with
        | .error _ => some session
        | .ok (_, group) => some { session with handles := session.handles ++ [group] }
      else some session
  | .instanceGroups =>
      match instanceGroupsTask session.data with
      | .error _ => some session
      | .ok groups => some { session with handles := session.handles ++ groups }

/-- The group would replace a stored one while its home directory or one of its
ids belongs to another stored group. -/
def Clashes (group : InstanceGroup) (data : PersistentData) : Prop :=
  (∃ stored ∈ data.instanceGroups, stored.name = group.name) ∧
    ∃ other ∈ data.instanceGroups, other.name ≠ group.name ∧
      (other.homeDirectory = group.homeDirectory ∨ ∃ id ∈ other.ids, id ∈ group.ids)

/-- An update uses a handle whose home directory and ids no other stored group
has taken in the meantime. -/
def NoStaleUpdate (session : Session) : Call → Prop
  | .updateInstanceGroup index changes =>
      ∀ handle, session.handles[index]? = some handle →
        ¬ Clashes (changes.foldl LocalInstanceGroup.set handle).proto session.data
  | _ => True

/-! ## One call -/

def AllValid (data : PersistentData) : Prop :=
  ∀ group ∈ data.instanceGroups, group.Valid

theorem addTask_unique {group named : InstanceGroup} {data next : PersistentData}
    (valid : group.Valid) (added : addTask group data = .ok (named, next))
    (unique : Unique data) (stored : AllValid data) : Unique next ∧ AllValid next := by
  rcases addTask_cases group data with ⟨name, -, aborted | taken | clash | fresh⟩
  · rcases aborted with ⟨-, message, failed⟩
    rw [failed] at added
    cases added
  · rcases taken with ⟨-, -, message, failed⟩
    rw [failed] at added
    cases added
  · rcases clash with ⟨-, -, message, failed⟩
    rw [failed] at added
    cases added
  · rcases fresh with ⟨freshName, freshHome, freshId, ok⟩
    rw [ok] at added
    cases added
    have namedValid : InstanceGroup.Valid { group with name } :=
      ⟨valid.nonempty, valid.positive, valid.ids, valid.names⟩
    constructor
    · apply Unique.of_perm (List.perm_append_singleton _ _).symm
      refine (unique_cons_iff _ namedValid _).mpr ⟨unique, ?_⟩
      intro other member
      refine ⟨freshName other member, fun same => freshHome ⟨other, member, same⟩, ?_⟩
      intro id inOther inGroup
      have positive := (stored other member).positive id inOther
      have set : id ≠ unsetId := by
        intro unset
        exact absurd (unset ▸ positive) (by decide)
      exact freshId ⟨other, member, id, inOther, set, inGroup⟩
    · intro other member
      rcases List.mem_append.mp member with old | new
      · exact stored other old
      · exact List.mem_singleton.mp new ▸ namedValid

theorem updateTask_unique_iff {group : InstanceGroup} {data next : PersistentData}
    (valid : group.Valid) (updated : updateTask group data = .ok ((), next))
    (unique : Unique data) : Unique next ↔ ¬ Clashes group data := by
  rcases replaceGroup_cases group data.instanceGroups with
    ⟨-, none_⟩ | ⟨before, stored, after, split, -, sameName, some_⟩
  · simp [updateTask, none_] at updated
  · have nextEq : next = ⟨before ++ group :: after⟩ := by
      simpa [updateTask, some_, eq_comm] using updated
    have dataUnique : Unique ⟨stored :: (before ++ after)⟩ := by
      apply Unique.of_perm List.perm_middle
      rwa [← split]
    have restUnique := dataUnique.of_sublist (List.sublist_cons_self _ _)
    have otherNames : ∀ other ∈ before ++ after, other.name ≠ group.name := by
      intro other member equal
      have names := (List.nodup_cons.mp dataUnique.names).1
      exact names (List.mem_map.mpr ⟨other, member, equal.trans sameName.symm⟩)
    have members : ∀ other, other ∈ before ++ after ↔
        other ∈ data.instanceGroups ∧ other.name ≠ group.name := by
      intro other
      rw [split]
      constructor
      · intro member
        refine ⟨?_, otherNames other member⟩
        rcases List.mem_append.mp member with first | last
        · simp [first]
        · simp [last]
      · intro parts
        rcases parts with ⟨member, different⟩
        have notStored : other ≠ stored := fun equal => different (equal ▸ sameName)
        simpa [notStored] using member
    have rearranged : Unique next ↔ Unique ⟨group :: (before ++ after)⟩ := by
      rw [nextEq]
      exact ⟨Unique.of_perm List.perm_middle, Unique.of_perm List.perm_middle.symm⟩
    rw [rearranged, unique_cons_iff group valid]
    constructor
    · intro parts clashes
      rcases parts with ⟨-, free⟩
      rcases clashes with ⟨-, other, member, different, shared⟩
      have parts := free other ((members other).mpr ⟨member, different⟩)
      rcases shared with sameHome | ⟨id, inOther, inGroup⟩
      · exact parts.2.1 sameHome
      · exact parts.2.2 id inOther inGroup
    · intro noClash
      have present : ∃ stored ∈ data.instanceGroups, stored.name = group.name :=
        ⟨stored, by simp [split], sameName⟩
      refine ⟨restUnique, ?_⟩
      intro other member
      rcases (members other).mp member with ⟨inData, different⟩
      refine ⟨different, ?_, ?_⟩
      · intro sameHome
        exact noClash ⟨present, other, inData, different, .inl sameHome⟩
      · intro id inOther inGroup
        exact noClash ⟨present, other, inData, different, .inr ⟨id, inOther, inGroup⟩⟩

theorem updateTask_allValid {group : InstanceGroup} {data next : PersistentData}
    (valid : group.Valid) (updated : updateTask group data = .ok ((), next))
    (stored : AllValid data) : AllValid next := by
  rcases replaceGroup_cases group data.instanceGroups with
    ⟨-, none_⟩ | ⟨before, old, after, split, -, -, some_⟩
  · simp [updateTask, none_] at updated
  · have nextEq : next = ⟨before ++ group :: after⟩ := by
      simpa [updateTask, some_, eq_comm] using updated
    intro other member
    rw [nextEq] at member
    have cases_ : other = group ∨ other ∈ data.instanceGroups := by
      rw [split]
      simp only [List.mem_append, List.mem_cons] at member ⊢
      rcases member with first | same | last
      · exact .inr (.inl first)
      · exact .inl same
      · exact .inr (.inr (.inr last))
    rcases cases_ with equal | old
    · exact equal ▸ valid
    · exact stored other old

theorem removeTask_sublist {groupName : String} {data next : PersistentData} {found : Bool}
    (removed : removeTask groupName data = .ok (found, next)) :
    next.instanceGroups.Sublist data.instanceGroups := by
  rw [removeTask] at removed
  split at removed
  · rename_i remaining erased
    cases removed
    exact eraseGroup_sublist erased
  · cases removed
    exact List.Sublist.refl _

theorem not_clashes_of_updateTask_error {group : InstanceGroup} {data : PersistentData}
    {failure : Failure} (failed : updateTask group data = .error failure) :
    ¬ Clashes group data := by
  intro clashes
  rcases clashes with ⟨⟨stored, member, sameName⟩, -⟩
  rcases replaceGroup_cases group data.instanceGroups with
    ⟨absent, -⟩ | ⟨before, old, after, -, -, -, replaced⟩
  · exact absent stored member sameName
  · simp [updateTask, replaced] at failed

theorem clearTask_empties {data next : PersistentData} {groups : List LocalInstanceGroup}
    (cleared : clearTask data = .ok (groups, next)) : next = ⟨[]⟩ := by
  rw [clearTask] at cleared
  rcases mapM_create_cases data.instanceGroups with ⟨-, message, failed⟩ | ⟨-, handles, ok, -⟩
  · simp [failed, bind, Except.bind] at cleared
  · simp only [ok, bind, Except.bind, pure, Except.pure] at cleared
    cases cleared
    rfl

theorem Session.step_cases {session next : Session} {call : Call}
    (stepped : session.step call = some next) (unique : Unique session.data)
    (stored : AllValid session.data) :
    AllValid next.data ∧ (Unique next.data ↔ NoStaleUpdate session call) := by
  cases call with
  | addInstanceGroup group =>
      simp only [step] at stepped
      have kept : AllValid session.data ∧ (Unique session.data ↔ True) :=
        ⟨stored, by simp [unique]⟩
      split at stepped
      · cases stepped
        exact kept
      · split at stepped
        · cases stepped
          exact kept
        · rename_i named data added
          cases stepped
          have result := addTask_unique group.valid added unique stored
          exact ⟨result.2, by simp [NoStaleUpdate, result.1]⟩
  | updateInstanceGroup index changes =>
      simp only [step] at stepped
      cases found : session.handles[index]? with
      | none => simp [found] at stepped
      | some handle =>
          simp only [found] at stepped
          have condition : NoStaleUpdate session (.updateInstanceGroup index changes) ↔
              ¬ Clashes (changes.foldl LocalInstanceGroup.set handle).proto session.data := by
            simp [NoStaleUpdate, found]
          rw [condition]
          have valid := (changes.foldl LocalInstanceGroup.set handle).valid
          split at stepped
          · rename_i failure failed
            cases stepped
            exact ⟨stored, iff_of_true unique (not_clashes_of_updateTask_error failed)⟩
          · rename_i data updated
            cases stepped
            exact ⟨updateTask_allValid valid updated stored,
              updateTask_unique_iff valid updated unique⟩
  | removeInstanceGroup groupName =>
      simp only [step] at stepped
      split at stepped
      · cases stepped
        exact ⟨stored, by simp [NoStaleUpdate, unique]⟩
      · rename_i found data removed
        cases stepped
        have sub := removeTask_sublist removed
        exact ⟨fun group member => stored group (sub.subset member),
          by simp [NoStaleUpdate, unique.of_sublist sub]⟩
  | clear =>
      simp only [step] at stepped
      split at stepped
      · cases stepped
        exact ⟨stored, by simp [NoStaleUpdate, unique]⟩
      · rename_i groups data cleared
        cases stepped
        have dataEq := clearTask_empties cleared
        refine ⟨by simp [AllValid, dataEq], iff_of_true ?_ trivial⟩
        exact dataEq ▸ unique.of_sublist (List.nil_sublist _)
  | findGroups filter =>
      simp only [step] at stepped
      split at stepped <;> cases stepped <;>
        exact ⟨stored, by simp [NoStaleUpdate, unique]⟩
  | findInstanceWithGroup filter =>
      have kept : next.data = session.data := by
        simp only [step] at stepped
        split at stepped
        · split at stepped <;> cases stepped <;> rfl
        · cases stepped
          rfl
      exact ⟨kept ▸ stored, by simp [NoStaleUpdate, kept, unique]⟩
  | instanceGroups =>
      simp only [step] at stepped
      split at stepped <;> cases stepped <;>
        exact ⟨stored, by simp [NoStaleUpdate, unique]⟩

/-! ## Runs from the empty database -/

/-- Every state of a run has distinct names, home directories and ids exactly if
no update in it brings back what another group has taken. -/
theorem unique_always_iff (calls : List Call) :
    Run.Always Session.step (fun session => Unique session.data) Session.empty calls ↔
      Run.Along Session.step NoStaleUpdate Session.empty calls := by
  have initial : AllValid Session.empty.data := by simp [AllValid, Session.empty]
  have emptyUnique : Unique Session.empty.data :=
    ⟨List.nodup_nil, List.nodup_nil, List.nodup_nil, by simp [Session.empty]⟩
  have preserved : ∀ session call next, AllValid session.data → Unique session.data →
      NoStaleUpdate session call → session.step call = some next → AllValid next.data :=
    fun session call next stored unique _ stepped =>
      (Session.step_cases stepped unique stored).1
  have survives : ∀ session call next, AllValid session.data → Unique session.data →
      session.step call = some next → (Unique next.data ↔ NoStaleUpdate session call) :=
    fun session call next stored unique stepped =>
      (Session.step_cases stepped unique stored).2
  rw [Run.always_iff_along preserved survives initial]
  simp [emptyUnique]

/-- The group is removed, its id goes to another group, its name is reused, and
then the old handle is written back. -/
def staleUpdateCalls : List Call :=
  let other : LocalInstanceGroup := ⟨{ sampleGroupA with name := "b", homeDirectory := "/b" },
    sampleGroupA_valid.nonempty, sampleGroupA_valid.positive, sampleGroupA_valid.ids,
    sampleGroupA_valid.names⟩
  let again : LocalInstanceGroup := ⟨{ sampleGroupB with name := "a", homeDirectory := "/c" },
    sampleGroupB_valid.nonempty, sampleGroupB_valid.positive, sampleGroupB_valid.ids,
    sampleGroupB_valid.names⟩
  [.addInstanceGroup ⟨sampleGroupA, sampleGroupA_valid⟩, .findGroups { groupName := some "a" },
    .removeInstanceGroup "a", .addInstanceGroup other, .addInstanceGroup again,
    .updateInstanceGroup 1 [.setAllStates .running]]

theorem stale_update_duplicates_id :
    ∃ session, Run.run Session.step Session.empty staleUpdateCalls = some session ∧
      session.data.instanceGroups.flatMap InstanceGroup.ids = [1, 1] ∧
      ¬ Unique session.data := by
  refine ⟨_, rfl, by decide, ?_⟩
  intro unique
  exact absurd unique.ids (by decide)

end Cuttlefish.Instances.InstanceDatabase
