import Cuttlefish.Foundation.Protobuf

/-! # The stored message

The messages of `cvd_persistent_data.proto` and the interface of the class that
is generated for the top-level one. -/

namespace Cuttlefish.Instances

inductive InstanceState
  | unspecified
  | preparing
  | starting
  | running
  | stopping
  | stopped
  | prepareFailed
  | bootFailed
  | unreachable
  | cancelled
  deriving DecidableEq, Repr

structure Instance where
  id : UInt32
  name : String
  state : InstanceState
  webrtcDeviceId : String
  deriving DecidableEq, Repr

structure InstanceGroup where
  name : String
  homeDirectory : String
  hostArtifactsPath : String
  productOutPath : String
  startTimeSec : Int
  instances : List Instance
  deriving DecidableEq, Repr

namespace InstanceGroup

def ids (group : InstanceGroup) : List UInt32 := group.instances.map Instance.id

def instanceNames (group : InstanceGroup) : List String :=
  group.instances.map Instance.name

/-- What every group that passed `LocalInstanceGroup::Create` satisfies. -/
structure Valid (group : InstanceGroup) : Prop where
  nonempty : group.instances ≠ []
  positive : ∀ id ∈ group.ids, 1 ≤ id
  ids : group.ids.Nodup
  names : group.instanceNames.Nodup

end InstanceGroup

/-- `cvd.PersistentData`, the message in the backing file. -/
structure PersistentData where
  instanceGroups : List InstanceGroup
  deriving DecidableEq, Repr

/-! ## Two small databases

Two one-instance groups and their encoding on the wire, for runs on concrete
content. Each group is one field of the top-level message, so the encoding of a
list of groups is the concatenation of theirs. -/

def sampleGroupA : InstanceGroup where
  name := "a"
  homeDirectory := "/a"
  hostArtifactsPath := ""
  productOutPath := ""
  startTimeSec := 0
  instances := [⟨1, "1", .preparing, ""⟩]

def sampleGroupB : InstanceGroup where
  name := "b"
  homeDirectory := "/b"
  hostArtifactsPath := ""
  productOutPath := ""
  startTimeSec := 0
  instances := [⟨2, "2", .preparing, ""⟩]

theorem sampleGroupA_valid : sampleGroupA.Valid where
  nonempty := by decide
  positive id member := by
    have only : id = 1 := List.mem_singleton.mp member
    rw [only]
    decide
  ids := by decide
  names := by decide

theorem sampleGroupB_valid : sampleGroupB.Valid where
  nonempty := by decide
  positive id member := by
    have only : id = 2 := List.mem_singleton.mp member
    rw [only]
    decide
  ids := by decide
  names := by decide

def sampleWireA : Bytes :=
  [0x0a, 0x10, 0x0a, 0x01, 0x61, 0x12, 0x02, 0x2f, 0x61,
    0x32, 0x07, 0x08, 0x01, 0x12, 0x01, 0x31, 0x18, 0x01]

def sampleWireB : Bytes :=
  [0x0a, 0x10, 0x0a, 0x01, 0x62, 0x12, 0x02, 0x2f, 0x62,
    0x32, 0x07, 0x08, 0x02, 0x12, 0x01, 0x32, 0x18, 0x01]

/-- The generated class on the encodings of the lists of sample groups; other
content does not parse and leaves an empty message. -/
def sampleCodec : MessageCodec PersistentData where
  parseFromString str :=
    if str = [] then (true, ⟨[]⟩)
    else if str = sampleWireA then (true, ⟨[sampleGroupA]⟩)
    else if str = sampleWireB then (true, ⟨[sampleGroupB]⟩)
    else if str = sampleWireA ++ sampleWireB then (true, ⟨[sampleGroupA, sampleGroupB]⟩)
    else if str = sampleWireB ++ sampleWireA then (true, ⟨[sampleGroupB, sampleGroupA]⟩)
    else (false, ⟨[]⟩)
  serializeToString data :=
    if data = ⟨[]⟩ then some []
    else if data = ⟨[sampleGroupA]⟩ then some sampleWireA
    else if data = ⟨[sampleGroupB]⟩ then some sampleWireB
    else if data = ⟨[sampleGroupA, sampleGroupB]⟩ then some (sampleWireA ++ sampleWireB)
    else if data = ⟨[sampleGroupB, sampleGroupA]⟩ then some (sampleWireB ++ sampleWireA)
    else none

end Cuttlefish.Instances
