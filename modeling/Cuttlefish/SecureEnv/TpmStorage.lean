import Cuttlefish.Foundation.Bytes
import Cuttlefish.Foundation.Run
import Mathlib.Data.List.Nodup

/-! # TPM storage

`TpmStorage` of `host/commands/secure_env`: values in the NV indices of a TPM, with an index
of their handles outside of it. -/

namespace Cuttlefish.SecureEnv

/-! ## NV indices -/

structure NvArea where
  data : Bytes
  written : Bool
  accessible : Bool

abbrev NvIndices := (handle : UInt32) → Option NvArea

def NvIndices.set (nv : NvIndices) (handle : UInt32) (area : NvArea) : NvIndices :=
  fun other => if other = handle then some area else nv other

inductive DefineResult
  | success
  | nvDefined
  | failed

/-- `Esys_NV_DefineSpace`. The TPM may fail for its own reasons; `blank` is what is in an area
that has not been written. -/
def defineSpace (blank : UInt8) (nv : NvIndices) (handle : UInt32) (dataSize : UInt16)
    (fails : Bool) : DefineResult × NvIndices :=
  if (nv handle).isSome then (.nvDefined, nv)
  else if fails then (.failed, nv)
  else (.success, nv.set handle ⟨List.replicate dataSize.toNat blank, false, true⟩)

def nvWrite (nv : NvIndices) (handle : UInt32) (data : Bytes) : Option NvIndices :=
  match nv handle with
  | none => none
  | some area =>
      if area.accessible = false ∨ area.data.length < data.length then none
      else some (nv.set handle ⟨data ++ area.data.drop data.length, true, true⟩)

def nvRead (nv : NvIndices) (handle : UInt32) : Option Bytes :=
  match nv handle with
  | none => none
  | some area => if area.accessible ∧ area.written then some area.data else none

/-! ## The storage -/

def maxNvBufferSize : Nat := 2048

structure StorageData where
  payload : Bytes
  accepted : payload.length ≤ maxNvBufferSize

/-- What a round of the loop in `Allocate` depends on. -/
structure Attempt where
  random : UInt32
  fallback : UInt32
  defineFails : Bool

def maxHandleAttempts : Nat := 1

def nvIndexFirst : UInt32 := 0x01000000

def nvIndexLast : UInt32 := 0x01ffffff

def generateRandomHandle (attempt : Attempt) : UInt32 :=
  let handle := if attempt.random = 0 then attempt.fallback else attempt.random
  handle % (nvIndexLast + 1 - nvIndexFirst) + nvIndexFirst

def defineLoop (blank : UInt8) (dataSize : UInt16) (attempt : Nat → Attempt) :
    (left round : Nat) → (handle : UInt32) → NvIndices → UInt32 × NvIndices
  | 0, _, handle, nv => (handle, nv)
  | left + 1, round, _, nv =>
      let handle := generateRandomHandle (attempt round)
      match defineSpace blank nv handle dataSize (attempt round).defineFails with
      | (.success, nv) => (handle, nv)
      | (.nvDefined, nv) | (.failed, nv) =>
          defineLoop blank dataSize attempt left (round + 1) handle nv

inductive WriteResult
  | success
  | error
  | throws
  deriving DecidableEq

inductive ReadResult
  | data (payload : Bytes)
  | error
  | throws
  deriving DecidableEq

structure TpmStorage where
  index : List (String × UInt32)
  file : List (String × UInt32)
  nv : NvIndices

/-- A call of `Write`, with what the TPM does meanwhile. -/
structure WriteCall where
  key : String
  data : StorageData
  attempt : Nat → Attempt
  saves : Bool

namespace TpmStorage

variable (storage : TpmStorage)

def getHandle (key : String) : Option UInt32 :=
  (storage.index.find? fun entry => entry.1 = key).map Prod.snd

def hasKey (key : String) : Bool := (storage.getHandle key).isSome

def read (key : String) : ReadResult :=
  match storage.getHandle key with
  | none => .throws
  | some handle =>
      match nvRead storage.nv handle with
      | none => .error
      | some payload => .data payload

def allocate (blank : UInt8) (call : WriteCall) (size : UInt16) : Bool × TpmStorage :=
  if storage.hasKey call.key then (false, storage)
  else
    let defined := defineLoop blank size call.attempt maxHandleAttempts 0 0 storage.nv
    let index := storage.index ++ [(call.key, defined.1)]
    if call.saves then (true, ⟨index, index, defined.2⟩)
    else (false, ⟨index, storage.file, defined.2⟩)

def write (blank : UInt8) (call : WriteCall) : WriteResult × TpmStorage :=
  let allocated :=
    if storage.hasKey call.key then (true, storage)
    else storage.allocate blank call (UInt16.ofNat call.data.payload.length)
  if allocated.1 = false then (.error, allocated.2)
  else
    match allocated.2.getHandle call.key with
    | none => (.throws, allocated.2)
    | some handle =>
        match nvWrite allocated.2.nv handle call.data.payload with
        | none => (.error, allocated.2)
        | some nv => (.success, { allocated.2 with nv })

end TpmStorage

/-! ## Sessions -/

/-- The storage with what was last written under each key. -/
structure Session where
  storage : TpmStorage
  stored : String → Option Bytes

/-- An empty storage, whatever else is in the TPM. -/
def Session.initial (nv : NvIndices) : Session := ⟨⟨[], [], nv⟩, fun _ => none⟩

/-- `Read` changes nothing, so that only calls of `Write` are steps. -/
def Session.step (blank : UInt8) (session : Session) (call : WriteCall) : Option Session :=
  match session.storage.write blank call with
  | (.success, storage) =>
      some ⟨storage, fun key =>
        if key = call.key then some call.data.payload else session.stored key⟩
  | (.error, storage) | (.throws, storage) => some ⟨storage, session.stored⟩

/-- The storage is a map. -/
structure Session.MapLike (session : Session) : Prop where
  handles : ∀ first second handle, session.storage.getHandle first = some handle →
    session.storage.getHandle second = some handle → first = second
  reads : ∀ key payload, session.stored key = some payload →
    session.storage.read key = .data payload

/-- A call that fails leaves the index and the values as they are. -/
def FailureKeeps (blank : UInt8) (session : Session) (call : WriteCall) : Prop :=
  let written := session.storage.write blank call
  written.1 ≠ .success →
    written.2.index = session.storage.index ∧ written.2.nv = session.storage.nv

/-- For a new key, space is defined and the index is saved; data for a key that exists is not
shorter than what it was made for. -/
def Careful (session : Session) (call : WriteCall) : Prop :=
  match session.storage.getHandle call.key with
  | none =>
      session.storage.nv (generateRandomHandle (call.attempt 0)) = none ∧
        (call.attempt 0).defineFails = false ∧ call.saves = true
  | some handle =>
      ∀ area, session.storage.nv handle = some area →
        area.data.length ≤ call.data.payload.length

/-! ## Handles -/

namespace NvIndices

@[simp]
theorem set_self (nv : NvIndices) (handle : UInt32) (area : NvArea) :
    nv.set handle area handle = some area := if_pos rfl

theorem set_of_ne (nv : NvIndices) {handle other : UInt32} (area : NvArea)
    (different : other ≠ handle) : nv.set handle area other = nv other := if_neg different

theorem set_set (nv : NvIndices) (handle : UInt32) (first second : NvArea) :
    (nv.set handle first).set handle second = nv.set handle second := by
  funext other
  unfold set
  split
  · rfl
  · rfl

end NvIndices

namespace TpmStorage

variable {storage : TpmStorage} {blank : UInt8} {call : WriteCall} {key : String}
  {handle : UInt32}

theorem mem_of_getHandle (found : storage.getHandle key = some handle) :
    (key, handle) ∈ storage.index := by
  rcases Option.map_eq_some_iff.mp found with ⟨entry, isEntry, rfl⟩
  have same : decide (entry.1 = key) = true :=
    @List.find?_some _ (fun entry : String × UInt32 => decide (entry.1 = key)) _ _ isEntry
  rw [← of_decide_eq_true same]
  exact List.mem_of_find?_eq_some isEntry

theorem getHandle_append (entry : String × UInt32) (file : List (String × UInt32))
    (nv : NvIndices) (absent : storage.getHandle entry.1 = none) :
    TpmStorage.getHandle ⟨storage.index ++ [entry], file, nv⟩ key =
      if key = entry.1 then some entry.2 else storage.getHandle key := by
  rw [getHandle] at absent ⊢
  rw [List.find?_append, List.find?_singleton]
  by_cases same : key = entry.1
  · have missing := Option.map_eq_none_iff.mp absent
    rw [same, missing, if_pos rfl, Option.none_or, if_pos (decide_eq_true rfl)]
    rfl
  · have other : decide (entry.1 = key) = false := decide_eq_false fun equal => same equal.symm
    rw [if_neg same, other, Option.map_or]
    exact Option.or_none

theorem write_new (absent : storage.getHandle call.key = none)
    (isHandle : generateRandomHandle (call.attempt 0) = handle) (free : storage.nv handle = none)
    (defines : (call.attempt 0).defineFails = false) (saves : call.saves = true) :
    storage.write blank call =
      (.success,
        ⟨storage.index ++ [(call.key, handle)], storage.index ++ [(call.key, handle)],
          storage.nv.set handle ⟨call.data.payload, true, true⟩⟩) := by
  let index := storage.index ++ [(call.key, handle)]
  let size := UInt16.ofNat call.data.payload.length
  let area : NvArea := ⟨List.replicate size.toNat blank, false, true⟩
  have noKey : storage.hasKey call.key = false := by rw [hasKey, absent, Option.isSome_none]
  have isSize : size.toNat = call.data.payload.length := by
    have accepted := call.data.accepted
    rw [UInt16.toNat_ofNat']
    rw [maxNvBufferSize] at accepted
    omega
  have defined : defineSpace blank storage.nv handle size (call.attempt 0).defineFails =
      (.success, storage.nv.set handle area) := by
    rw [defineSpace, free, defines]
    rfl
  have loop : defineLoop blank size call.attempt maxHandleAttempts 0 0 storage.nv =
      (handle, storage.nv.set handle area) := by
    rw [maxHandleAttempts, defineLoop, isHandle, defined]
  have allocated : storage.allocate blank call size =
      (true, ⟨index, index, storage.nv.set handle area⟩) := by
    rw [allocate, noKey, loop, saves]
    rfl
  have found : TpmStorage.getHandle ⟨index, index, storage.nv.set handle area⟩ call.key =
      some handle := by
    rw [getHandle_append (call.key, handle) _ _ absent, if_pos rfl]
  have fits : ¬ (area.accessible = false ∨ area.data.length < call.data.payload.length) := by
    rw [List.length_replicate, isSize]
    exact fun fails => fails.elim nofun (Nat.lt_irrefl _)
  have whole : call.data.payload ++ area.data.drop call.data.payload.length =
      call.data.payload := by
    rw [List.drop_replicate, isSize, Nat.sub_self, List.replicate_zero, List.append_nil]
  rw [write, noKey, if_neg Bool.false_ne_true, allocated]
  dsimp only
  rw [if_neg Bool.true_eq_false.mp, found]
  dsimp only
  rw [nvWrite, NvIndices.set_self]
  dsimp only
  rw [if_neg fits, whole, NvIndices.set_set]

theorem write_existing (found : storage.getHandle call.key = some handle) :
    storage.write blank call =
      match nvWrite storage.nv handle call.data.payload with
      | none => (.error, storage)
      | some nv => (.success, { storage with nv }) := by
  have key : storage.hasKey call.key = true := by rw [hasKey, found, Option.isSome_some]
  rw [write, key, if_pos rfl, if_neg Bool.true_eq_false.mp]
  dsimp only
  rw [found]

end TpmStorage

theorem nvWrite_eq_some {nv next : NvIndices} {handle : UInt32} {data : Bytes}
    (written : nvWrite nv handle data = some next) :
    ∃ area, nv handle = some area ∧ data.length ≤ area.data.length ∧
      next = nv.set handle ⟨data ++ area.data.drop data.length, true, true⟩ := by
  rw [nvWrite] at written
  split at written
  next => exact nomatch written
  next area isArea =>
    split at written
    next => exact nomatch written
    next fits =>
      exact ⟨area, isArea, Nat.not_lt.mp fun less => fits (.inr less),
        (Option.some.inj written).symm⟩

/-! ## Careful sessions -/

theorem Careful.write_cases {session : Session} {call : WriteCall} (blank : UInt8)
    (careful : Careful session call) :
    (∃ handle, session.storage.getHandle call.key = none ∧ session.storage.nv handle = none ∧
      session.storage.write blank call =
        (.success,
          ⟨session.storage.index ++ [(call.key, handle)], session.storage.index ++ [(call.key, handle)],
            session.storage.nv.set handle ⟨call.data.payload, true, true⟩⟩)) ∨
    (∃ handle, session.storage.getHandle call.key = some handle ∧
      session.storage.write blank call =
        (.success, { session.storage with
          nv := session.storage.nv.set handle ⟨call.data.payload, true, true⟩ })) ∨
    session.storage.write blank call = (.error, session.storage) := by
  rw [Careful] at careful
  cases found : session.storage.getHandle call.key with
  | none =>
      rw [found] at careful
      rcases careful with ⟨free, defines, saves⟩
      exact .inl ⟨_, rfl, free, TpmStorage.write_new found rfl free defines saves⟩
  | some handle =>
      rw [found] at careful
      rw [TpmStorage.write_existing found]
      cases written : nvWrite session.storage.nv handle call.data.payload with
      | none => exact .inr (.inr rfl)
      | some nv =>
          rcases nvWrite_eq_some written with ⟨area, isArea, fits, rfl⟩
          have whole : call.data.payload ++ area.data.drop call.data.payload.length =
              call.data.payload := by
            rw [List.drop_eq_nil_of_le (careful area isArea), List.append_nil]
          rw [whole]
          exact .inr (.inl ⟨handle, rfl, rfl⟩)

/-- Each entry has an area of its own, and what was last written is in it. -/
structure Sound (session : Session) : Prop where
  handles : (session.storage.index.map Prod.snd).Nodup
  areas : ∀ entry ∈ session.storage.index, ∃ area, session.storage.nv entry.2 = some area
  stored : ∀ key payload, session.stored key = some payload →
    ∃ handle, session.storage.getHandle key = some handle ∧
      session.storage.nv handle = some ⟨payload, true, true⟩

namespace Sound

variable {session next : Session} {call : WriteCall} {blank : UInt8}

theorem initial (nv : NvIndices) : Sound (.initial nv) :=
  ⟨List.nodup_nil, fun _ member => (nomatch member), fun _ _ stored => (nomatch stored)⟩

theorem handle_injective (sound : Sound session) {first second : String} {handle : UInt32}
    (isFirst : session.storage.getHandle first = some handle)
    (isSecond : session.storage.getHandle second = some handle) : first = second := by
  have same := List.inj_on_of_nodup_map sound.handles (TpmStorage.mem_of_getHandle isFirst)
    (TpmStorage.mem_of_getHandle isSecond) rfl
  exact congrArg Prod.fst same

theorem mapLike (sound : Sound session) : session.MapLike where
  handles _ _ _ isFirst isSecond := sound.handle_injective isFirst isSecond
  reads key payload stored := by
    rcases sound.stored key payload stored with ⟨handle, found, area⟩
    rw [TpmStorage.read, found]
    dsimp only
    rw [nvRead, area]
    rfl

theorem add {key : String} {handle : UInt32} {payload : Bytes} {file : List (String × UInt32)}
    (sound : Sound session) (absent : session.storage.getHandle key = none)
    (free : session.storage.nv handle = none) :
    Sound ⟨⟨session.storage.index ++ [(key, handle)], file,
        session.storage.nv.set handle ⟨payload, true, true⟩⟩,
      fun other => if other = key then some payload else session.stored other⟩ := by
  have apart : ∀ entry ∈ session.storage.index, entry.2 ≠ handle := by
    rintro entry member rfl
    rcases sound.areas entry member with ⟨area, isArea⟩
    rw [free] at isArea
    exact nomatch isArea
  refine ⟨?_, ?_, ?_⟩
  · rw [List.map_append, List.map_singleton]
    refine sound.handles.append (List.nodup_singleton handle) ?_
    rw [List.disjoint_singleton]
    intro member
    rcases List.mem_map.mp member with ⟨entry, isEntry, same⟩
    exact apart entry isEntry same
  · intro entry member
    dsimp only at member ⊢
    rcases List.mem_append.mp member with earlier | new
    · rw [NvIndices.set_of_ne _ _ (apart entry earlier)]
      exact sound.areas entry earlier
    · rw [List.mem_singleton.mp new, NvIndices.set_self]
      exact ⟨_, rfl⟩
  · intro other written stored
    dsimp only at stored ⊢
    rw [TpmStorage.getHandle_append (key, handle) _ _ absent]
    split at stored
    next same =>
      rw [if_pos same, ← Option.some.inj stored]
      exact ⟨handle, rfl, NvIndices.set_self ..⟩
    next different =>
      rcases sound.stored other written stored with ⟨old, found, area⟩
      rw [if_neg different]
      exact ⟨old, found, (NvIndices.set_of_ne _ _
        (apart _ (TpmStorage.mem_of_getHandle found))).trans area⟩

theorem overwrite {key : String} {handle : UInt32} {payload : Bytes} (sound : Sound session)
    (found : session.storage.getHandle key = some handle) :
    Sound ⟨{ session.storage with
        nv := session.storage.nv.set handle ⟨payload, true, true⟩ },
      fun other => if other = key then some payload else session.stored other⟩ := by
  refine ⟨sound.handles, ?_, ?_⟩
  · intro entry member
    dsimp only
    rw [NvIndices.set]
    split
    · exact ⟨_, rfl⟩
    · exact sound.areas entry member
  · intro other written stored
    dsimp only at stored
    split at stored
    next same =>
      rw [same, ← Option.some.inj stored]
      exact ⟨handle, found, NvIndices.set_self ..⟩
    next different =>
      rcases sound.stored other written stored with ⟨old, isOld, area⟩
      have apart : old ≠ handle := by
        rintro rfl
        exact different (sound.handle_injective isOld found)
      exact ⟨old, isOld, (NvIndices.set_of_ne _ _ apart).trans area⟩

theorem step (sound : Sound session) (careful : Careful session call)
    (stepped : session.step blank call = some next) : Sound next := by
  rw [Session.step] at stepped
  rcases careful.write_cases blank with
    ⟨handle, absent, free, written⟩ | ⟨handle, found, written⟩ | written
  · rw [written] at stepped
    exact Option.some.inj stepped ▸ sound.add absent free
  · rw [written] at stepped
    exact Option.some.inj stepped ▸ sound.overwrite found
  · rw [written] at stepped
    exact Option.some.inj stepped ▸ sound

end Sound

theorem Careful.failureKeeps {session : Session} {call : WriteCall} (blank : UInt8)
    (careful : Careful session call) : FailureKeeps blank session call := by
  intro fails
  rcases careful.write_cases blank with
    ⟨handle, absent, free, written⟩ | ⟨handle, found, written⟩ | written
  · exact absurd (congrArg Prod.fst written) fails
  · exact absurd (congrArg Prod.fst written) fails
  · rw [written]
    exact ⟨rfl, rfl⟩

/-- As long as space is defined for each new key and nothing is written that is shorter than
what is there, the storage is a map and failures change nothing. -/
theorem storage_is_map (blank : UInt8) (nv : NvIndices) (calls : List WriteCall)
    (careful : Run.Along (Session.step blank) Careful (.initial nv) calls) :
    Run.Always (Session.step blank) Session.MapLike (.initial nv) calls ∧
      Run.Along (Session.step blank) (FailureKeeps blank) (.initial nv) calls := by
  constructor
  · exact Run.always_of_along (fun _ _ _ sound careful stepped => sound.step careful stepped)
      (fun _ sound => sound.mapLike) (Sound.initial nv) careful
  · exact careful.imp fun _ _ careful => careful.failureKeeps blank

def writeCall (key : String) (data : StorageData) (random : UInt32) : WriteCall :=
  ⟨key, data, fun _ => ⟨random, 0, false⟩, true⟩

def oneByte : StorageData := ⟨[3], by decide⟩

def twoBytes : StorageData := ⟨[1, 2], by decide⟩

def noIndices : NvIndices := fun _ => none

theorem storage_is_map_two_keys :
    let calls := [writeCall "a" twoBytes 1, writeCall "b" oneByte 2, writeCall "b" twoBytes 3]
    Run.Always (Session.step 0) Session.MapLike (.initial noIndices) calls ∧
      Run.Along (Session.step 0) (FailureKeeps 0) (.initial noIndices) calls := by
  intro calls
  refine storage_is_map 0 noIndices calls ?_
  refine .cons rfl ⟨rfl, rfl, rfl⟩ (.cons rfl ⟨rfl, rfl, rfl⟩ (.cons rfl ?_ trivial))
  intro area isArea
  rw [← Option.some.inj isArea]
  decide

/-- The random handle of the second key is that of the first. -/
def handleInUse : List WriteCall := [writeCall "a" twoBytes 1, writeCall "b" oneByte 1]

/-- Something shorter is written under the same key. -/
def shorterData : List WriteCall := [writeCall "a" twoBytes 1, writeCall "a" oneByte 2]

/-- In both cases only the first byte of what was stored is overwritten. -/
theorem storage_is_not_map :
    [handleInUse, shorterData].map (fun calls =>
        (Run.run (Session.step 0) (.initial noIndices) calls).map fun session =>
          (session.storage.read "a", session.stored "a")) =
      [some (.data [3, 2], some [1, 2]), some (.data [3, 2], some [3])] ∧
    ¬ Run.Always (Session.step 0) Session.MapLike (.initial noIndices) handleInUse ∧
    ¬ Run.Always (Session.step 0) Session.MapLike (.initial noIndices) shorterData := by
  refine ⟨by decide +kernel, ?_, ?_⟩
  · intro always
    have reads := (always.final rfl).reads "a" [1, 2] rfl
    exact absurd reads (by decide +kernel)
  · intro always
    have reads := (always.final rfl).reads "a" [3] rfl
    exact absurd reads (by decide +kernel)

end Cuttlefish.SecureEnv
