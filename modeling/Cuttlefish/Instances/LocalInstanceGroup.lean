import Cuttlefish.Instances.PersistentData
import Cuttlefish.Result

/-! # Instance groups

The `LocalInstanceGroup` handle over one stored group, with the checks of
`LocalInstanceGroup::Create` carried as a field. -/

namespace Cuttlefish.Instances

/-- `LocalInstanceGroup`. Only `Create` builds one. -/
structure LocalInstanceGroup where
  proto : InstanceGroup
  valid : proto.Valid

namespace LocalInstanceGroup

@[ext] theorem ext {left right : LocalInstanceGroup} (equal : left.proto = right.proto) :
    left = right := by
  cases left
  cases right
  simpa using equal

instance : DecidableEq LocalInstanceGroup := fun left right =>
  decidable_of_iff (left.proto = right.proto) ⟨ext, fun equal => by rw [equal]⟩

/-- The loop of `Create` over the instances, with the ids and names seen so
far. -/
def createLoop : List Instance → List UInt32 → List String → Result Unit
  | [], _, _ => .ok ()
  | inst :: rest, ids, names => do
      cfExpect (decide (1 ≤ inst.id)) "Instance ids must be positive"
      cfExpect (!ids.contains inst.id)
        ("Instances must have unique ids, found '" ++ toString inst.id ++ "' repeated")
      cfExpect (!names.contains inst.name)
        ("Instances must have unique names, found '" ++ inst.name ++ "' repeated")
      createLoop rest (inst.id :: ids) (inst.name :: names)

def createChecks (groupProto : InstanceGroup) : Result Unit := do
  cfExpect (!groupProto.instances.isEmpty) "New group can't be empty"
  createLoop groupProto.instances [] []

theorem createLoop_eq_ok_iff (instances : List Instance) (ids : List UInt32)
    (names : List String) :
    createLoop instances ids names = .ok () ↔
      (∀ id ∈ instances.map Instance.id, 1 ≤ id ∧ id ∉ ids) ∧
        (instances.map Instance.id).Nodup ∧
        (∀ name ∈ instances.map Instance.name, name ∉ names) ∧
        (instances.map Instance.name).Nodup := by
  induction instances generalizing ids names with
  | nil => simp [createLoop]
  | cons inst rest induction =>
      by_cases positive : 1 ≤ inst.id
      · by_cases freshId : inst.id ∈ ids
        · simp [createLoop, cfExpect, positive, freshId, bind, Except.bind]
        · by_cases freshName : inst.name ∈ names
          · simp [createLoop, cfExpect, positive, freshId, freshName, bind, Except.bind]
          · have rest_iff := induction (inst.id :: ids) (inst.name :: names)
            simp only [createLoop, cfExpect, positive, freshId, freshName, decide_true,
              if_true, List.contains_eq_mem, decide_false, Bool.not_false, bind,
              Except.bind, rest_iff]
            simp only [List.map_cons, List.mem_cons, List.nodup_cons, not_or,
              forall_eq_or_imp]
            grind
      · simp [createLoop, cfExpect, positive, bind, Except.bind]

theorem createChecks_eq_ok_iff (groupProto : InstanceGroup) :
    createChecks groupProto = .ok () ↔ groupProto.Valid := by
  rw [createChecks]
  cases empty : groupProto.instances with
  | nil =>
      constructor
      · intro checked
        simp [cfExpect, bind, Except.bind] at checked
      · intro valid
        exact absurd empty valid.nonempty
  | cons inst rest =>
      simp only [List.isEmpty_cons, Bool.not_false, cfExpect_true, bind, Except.bind]
      rw [createLoop_eq_ok_iff, ← empty]
      constructor
      · intro parts
        rcases parts with ⟨ids, idsNodup, -, namesNodup⟩
        exact ⟨by simp [empty], fun id member => (ids id member).1, idsNodup, namesNodup⟩
      · intro valid
        exact ⟨fun id member => ⟨valid.positive id member, by simp⟩, valid.ids,
          by simp, valid.names⟩

def create (groupProto : InstanceGroup) : Result LocalInstanceGroup :=
  match checked : createChecks groupProto with
  | .error failure => .error failure
  | .ok () => .ok ⟨groupProto, (createChecks_eq_ok_iff groupProto).mp checked⟩

theorem create_of_valid (groupProto : InstanceGroup) (valid : groupProto.Valid) :
    create groupProto = .ok ⟨groupProto, valid⟩ := by
  have checked := (createChecks_eq_ok_iff groupProto).mpr valid
  rw [create]
  split
  · rename_i failed
    rw [checked] at failed
    cases failed
  · rfl

private theorem createLoop_not_abort (instances : List Instance) (ids : List UInt32)
    (names : List String) (message : String) :
    createLoop instances ids names ≠ .error (.abort message) := by
  induction instances generalizing ids names with
  | nil => simp [createLoop]
  | cons inst rest induction =>
      intro aborted
      simp only [createLoop, cfExpect, bind, Except.bind] at aborted
      split at aborted
      · rename_i failed
        split at failed <;> simp_all
      · split at aborted
        · rename_i failed
          split at failed <;> simp_all
        · split at aborted
          · rename_i failed
            split at failed <;> simp_all
          · exact induction _ _ aborted

theorem create_returnsError_iff (groupProto : InstanceGroup) :
    (create groupProto).ReturnsError ↔ ¬ groupProto.Valid := by
  constructor
  · intro error valid
    rw [create_of_valid groupProto valid] at error
    exact Result.returnsError_ok _ error
  · intro invalid
    cases checked : createChecks groupProto with
    | ok _ => exact absurd ((createChecks_eq_ok_iff groupProto).mp checked) invalid
    | error failure =>
        have created : create groupProto = .error failure := by
          rw [create]
          split
          · rename_i failed
            rw [checked] at failed
            cases failed
            rfl
          · rename_i passed
            rw [checked] at passed
            cases passed
        cases failure with
        | err message => exact ⟨message, created⟩
        | abort message =>
            rw [createChecks] at checked
            cases empty : groupProto.instances.isEmpty with
            | true => simp [empty, bind, Except.bind] at checked
            | false =>
                simp only [empty, Bool.not_false, cfExpect_true, bind, Except.bind]
                  at checked
                exact absurd checked (createLoop_not_abort _ _ _ message)

/-! ## Setters

The public setters of a group handle and of the instance handles inside it. -/

inductive Setter
  | setStartTime (startTimeSec : Int)
  | setAllStates (state : InstanceState)
  | setState (index : Nat) (state : InstanceState)
  | setWebrtcDeviceId (index : Nat) (webrtcDeviceId : String)
  deriving DecidableEq, Repr

def Setter.onInstance : Setter → Nat → Instance → Instance
  | .setStartTime _, _, inst => inst
  | .setAllStates state, _, inst => { inst with state }
  | .setState index state, position, inst =>
      if position = index then { inst with state } else inst
  | .setWebrtcDeviceId index webrtcDeviceId, position, inst =>
      if position = index then { inst with webrtcDeviceId } else inst

def Setter.onGroup (setter : Setter) (group : InstanceGroup) : InstanceGroup where
  name := group.name
  homeDirectory := group.homeDirectory
  hostArtifactsPath := group.hostArtifactsPath
  productOutPath := group.productOutPath
  startTimeSec := match setter with
    | .setStartTime startTimeSec => startTimeSec
    | _ => group.startTimeSec
  instances := group.instances.mapIdx setter.onInstance

private theorem map_mapIdx_of_keeps {β : Type} (field : Instance → β)
    (change : Nat → Instance → Instance)
    (keeps : ∀ position inst, field (change position inst) = field inst)
    (instances : List Instance) :
    (instances.mapIdx change).map field = instances.map field := by
  apply List.ext_getElem?
  intro index
  cases found : instances[index]? with
  | none => simp [found]
  | some inst => simp [found, keeps]

@[simp] theorem Setter.onGroup_ids (setter : Setter) (group : InstanceGroup) :
    (setter.onGroup group).ids = group.ids := by
  apply map_mapIdx_of_keeps
  intro position inst
  cases setter <;> simp only [onInstance] <;> split <;> rfl

@[simp] theorem Setter.onGroup_instanceNames (setter : Setter) (group : InstanceGroup) :
    (setter.onGroup group).instanceNames = group.instanceNames := by
  apply map_mapIdx_of_keeps
  intro position inst
  cases setter <;> simp only [onInstance] <;> split <;> rfl

def set (group : LocalInstanceGroup) (setter : Setter) : LocalInstanceGroup where
  proto := setter.onGroup group.proto
  valid :=
    { nonempty := fun empty => group.valid.nonempty (by
        simpa [Setter.onGroup] using empty)
      positive := by simpa using group.valid.positive
      ids := by simpa using group.valid.ids
      names := by simpa using group.valid.names }

def withName (group : LocalInstanceGroup) (name : String) : LocalInstanceGroup where
  proto := { group.proto with name }
  valid := ⟨group.valid.nonempty, group.valid.positive, group.valid.ids, group.valid.names⟩

end LocalInstanceGroup

end Cuttlefish.Instances
