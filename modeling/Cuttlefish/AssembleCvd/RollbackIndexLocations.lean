import Cuttlefish.AssembleCvd.MiscInfo
import Mathlib.Data.List.Nodup
import Mathlib.Data.List.NodupEquivFin

/-! # Rollback index locations of merged partitions -/

namespace Cuttlefish.AssembleCvd.MiscInfo

/-! ## Free indices -/

variable {used : List Int} {index free : Int} {fuel : Nat}

theorem firstFree_notMem (found : firstFree used fuel index = some free) : free ∉ used := by
  induction fuel generalizing index with
  | zero => cases found
  | succ fuel induction =>
      rw [firstFree] at found
      by_cases isUsed : index ∈ used
      · rw [if_pos isUsed] at found
        exact induction found
      · rw [if_neg isUsed] at found
        cases found
        exact isUsed

theorem mem_of_firstFree_eq_none (notFound : firstFree used fuel index = none) :
    ∀ offset < fuel, index + (offset : Int) ∈ used := by
  induction fuel generalizing index with
  | zero => simp
  | succ fuel induction =>
      rw [firstFree] at notFound
      by_cases isUsed : index ∈ used
      · rw [if_pos isUsed] at notFound
        intro offset inRange
        cases offset with
        | zero => simpa using isUsed
        | succ offset =>
            have later := induction notFound offset (Nat.lt_of_succ_lt_succ inRange)
            have same : index + 1 + (offset : Int) = index + ((offset + 1 : Nat) : Int) := by omega
            exact same ▸ later
      · rw [if_neg isUsed] at notFound
        cases notFound

theorem isSome_firstFree (used : List Int) (index : Int) :
    (firstFree used (used.length + 1) index).isSome := by
  rw [← Option.ne_none_iff_isSome]
  intro notFound
  have allUsed := mem_of_firstFree_eq_none notFound
  have distinct : ((List.range (used.length + 1)).map
      fun offset : Nat => index + (offset : Int)).Nodup := by
    apply List.nodup_range.map
    intro first second same
    dsimp only at same
    omega
  have subset : ((List.range (used.length + 1)).map
      fun offset : Nat => index + (offset : Int)) ⊆ used := by
    intro value isValue
    rcases List.mem_map.mp isValue with ⟨offset, inRange, rfl⟩
    exact allUsed offset (List.mem_range.mp inRange)
  have notLonger := (List.subperm_of_subset distinct subset).length_le
  rw [List.length_map, List.length_range] at notLonger
  omega

theorem print_injective : Function.Injective Decimal.print := by
  intro first second same
  have scanned := congrArg Decimal.scan same
  rw [Decimal.scan_print, Decimal.scan_print] at scanned
  exact Option.some.inj scanned

theorem resolve_notMem {simpleAtoi : Text → Option Int} {text : Text}
    (resolved : resolveRollbackIndexConflicts simpleAtoi text used = .ok index) : index ∉ used := by
  rw [resolveRollbackIndexConflicts] at resolved
  cases parsed : simpleAtoi text with
  | none =>
      rw [parsed] at resolved
      cases resolved
  | some first =>
      rw [parsed] at resolved
      rcases Option.isSome_iff_exists.mp (isSome_firstFree used first) with ⟨free, isFree⟩
      dsimp only at resolved
      rw [isFree] at resolved
      dsimp only at resolved
      split at resolved
      · cases resolved
        exact firstFree_notMem isFree
      · cases resolved

/-! ## Locations of the system partitions -/

section Locations

variable (simpleAtoi : Text → Option Int) (systemInfo : MiscInfo)

def giveLocation (state : (Text → Option Int) × List Int) (key : Text) :
    (Text → Option Int) × List Int :=
  match systemInfo key with
  | none => state
  | some systemValue =>
      if rollbackIndexSuffix <:+ key then
        match resolveRollbackIndexConflicts simpleAtoi systemValue state.2 with
        | .ok index => (Function.update state.1 key (some index), index :: state.2)
        | .error _ => state
      else state

def systemLocations (systemPartitions : List Text) : Text → Option Int :=
  ((systemPartitions.flatMap generatePartitionKeys).foldl (giveLocation simpleAtoi systemInfo)
    (fun _ => none, [])).1

end Locations

/-- Every location is given to one key. -/
structure Given (state : (Text → Option Int) × List Int) : Prop where
  used : ∀ key, ∀ index ∈ state.1 key, index ∈ state.2
  once : ∀ first second, ∀ index ∈ state.1 first, index ∈ state.1 second → first = second

structure Merges (vendorInfo : MiscInfo) (merged : MiscInfo × List Int)
    (state : (Text → Option Int) × List Int) : Prop where
  given : Given state
  sameUsed : merged.2 = state.2
  values : ∀ key, rollbackIndexSuffix <:+ key →
    merged.1 key = ((state.1 key).map Decimal.print).or (vendorInfo key)

variable {simpleAtoi : Text → Option Int} {vendorInfo systemInfo combinedDpInfo : MiscInfo}

theorem Given.update {state : (Text → Option Int) × List Int} (given : Given state) {key : Text}
    (notUsed : index ∉ state.2) :
    Given (Function.update state.1 key (some index), index :: state.2) := by
  have own : ∀ other, ∀ value ∈ Function.update state.1 key (some index) other,
      (other = key ∧ value = index) ∨ (other ≠ key ∧ value ∈ state.1 other) := by
    intro other value isValue
    by_cases same : other = key
    · subst same
      rw [Function.update_self] at isValue
      exact .inl ⟨rfl, (Option.some.inj isValue).symm⟩
    · rw [Function.update_of_ne same] at isValue
      exact .inr ⟨same, isValue⟩
  constructor
  · intro other value isValue
    rcases own other value isValue with ⟨-, rfl⟩ | ⟨-, isOld⟩
    · exact List.mem_cons_self
    · exact List.mem_cons_of_mem _ (given.used other value isOld)
  · intro first second value isFirst isSecond
    rcases own first value isFirst with ⟨rfl, rfl⟩ | ⟨-, firstOld⟩
    · rcases own second value isSecond with ⟨rfl, -⟩ | ⟨-, secondOld⟩
      · rfl
      · exact absurd (given.used second value secondOld) notUsed
    · rcases own second value isSecond with ⟨rfl, rfl⟩ | ⟨-, secondOld⟩
      · exact absurd (given.used first value firstOld) notUsed
      · exact given.once first second value firstOld secondOld

theorem Merges.step {merged next : MiscInfo × List Int} {state : (Text → Option Int) × List Int}
    (merges : Merges vendorInfo merged state) {key : Text}
    (ran : mergeKey simpleAtoi systemInfo merged key = .ok next) :
    Merges vendorInfo next (giveLocation simpleAtoi systemInfo state key) := by
  rw [mergeKey] at ran
  rw [giveLocation]
  cases isValue : systemInfo key with
  | none =>
      rw [isValue] at ran
      cases ran
      exact merges
  | some systemValue =>
      rw [isValue] at ran
      dsimp only at ran ⊢
      by_cases isLocation : rollbackIndexSuffix <:+ key
      · rw [if_pos isLocation] at ran
        rcases Result.bind_eq_ok.mp ran with ⟨index, resolved, isNext⟩
        cases isNext
        rw [merges.sameUsed] at resolved
        rw [if_pos isLocation, resolved]
        refine ⟨merges.given.update (resolve_notMem resolved), ?_, ?_⟩
        · dsimp only
          rw [merges.sameUsed]
        · intro other isOther
          by_cases same : other = key
          · subst same
            simp
          · dsimp only
            rw [Function.update_of_ne same, Function.update_of_ne same]
            exact merges.values other isOther
      · rw [if_neg isLocation] at ran
        cases ran
        rw [if_neg isLocation]
        refine ⟨merges.given, merges.sameUsed, fun other isOther => ?_⟩
        have different : other ≠ key := fun same => isLocation (same ▸ isOther)
        dsimp only
        rw [Function.update_of_ne different]
        exact merges.values other isOther

theorem Merges.run {keys : List Text} {merged final : MiscInfo × List Int}
    {state : (Text → Option Int) × List Int} (merges : Merges vendorInfo merged state)
    (ran : keys.foldlM (mergeKey simpleAtoi systemInfo) merged = .ok final) :
    Merges vendorInfo final (keys.foldl (giveLocation simpleAtoi systemInfo) state) := by
  induction keys generalizing merged state with
  | nil =>
      cases ran
      exact merges
  | cons key keys induction =>
      rw [List.foldlM_cons] at ran
      rcases Result.bind_eq_ok.mp ran with ⟨next, isNext, rest⟩
      exact induction (merges.step isNext) rest

/-! ## Keys of the merged map -/

theorem mergeKey_isSome {merged next : MiscInfo × List Int} {key : Text}
    (ran : mergeKey simpleAtoi systemInfo merged key = .ok next) (other : Text) :
    (next.1 other).isSome ↔
      (merged.1 other).isSome ∨ (other = key ∧ (systemInfo other).isSome) := by
  rw [mergeKey] at ran
  have updated (value : Text) (isSystem : (systemInfo key).isSome) :
      (Function.update merged.1 key (some value) other).isSome ↔
        (merged.1 other).isSome ∨ (other = key ∧ (systemInfo other).isSome) := by
    by_cases same : other = key
    · subst same
      simp [isSystem]
    · simp [same]
  cases isValue : systemInfo key with
  | none =>
      rw [isValue] at ran
      cases ran
      constructor
      · exact .inl
      · rintro (isMerged | ⟨rfl, isSystem⟩)
        · exact isMerged
        · rw [isValue] at isSystem
          cases isSystem
  | some systemValue =>
      have isSystem : (systemInfo key).isSome := by rw [isValue]; rfl
      rw [isValue] at ran
      dsimp only at ran
      split at ran
      · rcases Result.bind_eq_ok.mp ran with ⟨index, -, isNext⟩
        cases isNext
        exact updated _ isSystem
      · cases ran
        exact updated _ isSystem

theorem mergeKeys_isSome {keys : List Text} {merged final : MiscInfo × List Int}
    (ran : keys.foldlM (mergeKey simpleAtoi systemInfo) merged = .ok final) (other : Text) :
    (final.1 other).isSome ↔
      (merged.1 other).isSome ∨ (other ∈ keys ∧ (systemInfo other).isSome) := by
  induction keys generalizing merged with
  | nil =>
      cases ran
      simp
  | cons key keys induction =>
      rw [List.foldlM_cons] at ran
      rcases Result.bind_eq_ok.mp ran with ⟨next, isNext, rest⟩
      rw [induction rest, mergeKey_isSome isNext, List.mem_cons]
      tauto

/-- The merged map has a key for the path of the partition's key. -/
def Chained (vendorInfo systemInfo combinedDpInfo : MiscInfo) (systemPartitions : List Text)
    (name : Text) : Prop :=
  (vendorInfo (keyPathKey name)).isSome ∨
    (keyPathKey name ∈ systemPartitions.flatMap generatePartitionKeys ∧
      (systemInfo (keyPathKey name)).isSome) ∨
    (combinedDpInfo (keyPathKey name)).isSome

variable {systemPartitions : List Text} {merged : MiscInfo}

theorem avbKey_notMem_nonPartitionKeys (name suffix : Text) :
    avbKey name suffix ∉ nonPartitionKeysToMerge := by
  have others : ∀ key ∈ nonPartitionKeysToMerge, ¬ "avb_".toList <+: key := by decide
  intro member
  have starts : "avb_".toList <+: avbKey name suffix :=
    ⟨name ++ suffix, (List.append_assoc "avb_".toList name suffix).symm⟩
  exact others _ member starts

theorem isChained_iff
    (isMerged : mergeMiscInfos simpleAtoi vendorInfo systemInfo combinedDpInfo systemPartitions =
      .ok merged) (name : Text) :
    merged.isChained name ↔ Chained vendorInfo systemInfo combinedDpInfo systemPartitions name := by
  rcases Result.bind_eq_ok.mp isMerged with ⟨⟨result, used⟩, isResult, isMerged⟩
  cases isMerged
  have keys := mergeKeys_isSome isResult (keyPathKey name)
  rw [isChained, overriddenBy, overriddenBy, only, keyPathKey,
    if_neg (avbKey_notMem_nonPartitionKeys name _), Option.none_or, Option.isSome_or,
    Bool.or_eq_true]
  change _ ∨ (result (keyPathKey name)).isSome = true ↔ _
  rw [keys, or_comm, or_assoc]
  rfl

/-! ## Locations of the chained partitions -/

def mergedLocation (simpleAtoi : Text → Option Int) (vendorInfo systemInfo : MiscInfo)
    (systemPartitions : List Text) (name : Text) : Option Text :=
  ((systemLocations simpleAtoi systemInfo systemPartitions (rollbackKey name)).map
    Decimal.print).or (vendorInfo (rollbackKey name))

theorem merged_rollbackKey
    (isMerged : mergeMiscInfos simpleAtoi vendorInfo systemInfo combinedDpInfo systemPartitions =
      .ok merged) {name : Text} (notCombined : combinedDpInfo (rollbackKey name) = none) :
    Given ((systemPartitions.flatMap generatePartitionKeys).foldl
        (giveLocation simpleAtoi systemInfo) (fun _ => none, [])) ∧
      merged (rollbackKey name) =
        mergedLocation simpleAtoi vendorInfo systemInfo systemPartitions name := by
  rcases Result.bind_eq_ok.mp isMerged with ⟨⟨result, used⟩, isResult, isMerged⟩
  cases isMerged
  have initial : Merges vendorInfo (vendorInfo, []) (fun _ => none, []) :=
    ⟨⟨fun _ _ isGiven => by simp at isGiven, fun _ _ _ isGiven => by simp at isGiven⟩, rfl,
      fun _ _ => rfl⟩
  have merges := initial.run isResult
  refine ⟨merges.given, ?_⟩
  have notMerged : rollbackKey name ∉ nonPartitionKeysToMerge :=
    avbKey_notMem_nonPartitionKeys name _
  rw [overriddenBy, notCombined, Option.none_or, overriddenBy, only, if_neg notMerged,
    Option.none_or]
  apply merges.values
  exact List.suffix_append _ _

theorem map_of_mapM {First Second Value : Type} {read : First → Result Second}
    {elements : List First} {results : List Second} {view : Second → Value} {expected : First → Value}
    (ran : elements.mapM read = .ok results)
    (agree : ∀ element result, read element = .ok result → view result = expected element) :
    results.map view = elements.map expected := by
  induction elements generalizing results with
  | nil =>
      cases ran
      rfl
  | cons element elements induction =>
      rw [List.mapM_cons] at ran
      rcases Result.bind_eq_ok.mp ran with ⟨result, isResult, ran⟩
      rcases Result.bind_eq_ok.mp ran with ⟨rest, isRest, isResults⟩
      cases isResults
      rw [List.map_cons, List.map_cons, agree element result isResult, induction isRest]

theorem chainPartition_rollbackIndex {pubKeys : TestKeys} {name : Text}
    {partition : ChainPartition} (isPartition : chainPartition merged pubKeys name = .ok partition) :
    some partition.rollbackIndex = merged (rollbackKey name) := by
  rcases Result.bind_eq_ok.mp isPartition with ⟨_, -, isPartition⟩
  rcases Result.bind_eq_ok.mp isPartition with ⟨rollbackIndex, isIndex, isPartition⟩
  rcases Result.bind_eq_ok.mp isPartition with ⟨_, -, isPartition⟩
  cases isPartition
  rw [getExpected] at isIndex
  cases found : merged (rollbackKey name) with
  | none =>
      rw [found] at isIndex
      cases isIndex
  | some value =>
      rw [found] at isIndex
      cases isIndex
      rfl

theorem chainedPartitions_locations {keys pubKeys : TestKeys} {imagePath : Text} {args : VbmetaArgs}
    (isArgs : getVbmetaArgs merged keys pubKeys imagePath = .ok args) :
    args.chainedPartitions.map (fun partition => some partition.rollbackIndex) =
      (vbmetaPartitions.filter merged.isChained).map fun name => merged (rollbackKey name) := by
  rcases Result.bind_eq_ok.mp isArgs with ⟨_, -, isArgs⟩
  rcases Result.bind_eq_ok.mp isArgs with ⟨_, -, isArgs⟩
  rcases Result.bind_eq_ok.mp isArgs with ⟨_, -, isArgs⟩
  rcases Result.bind_eq_ok.mp isArgs with ⟨chained, isChained, isArgs⟩
  cases isArgs
  exact map_of_mapM isChained fun name partition => chainPartition_rollbackIndex

theorem rollbackKey_injective : Function.Injective rollbackKey := by
  intro first second same
  exact List.append_cancel_left (List.append_cancel_right same)

/-- Values of different partitions are different. -/
def DistinctLocations (vendorInfo : MiscInfo) : Prop :=
  ∀ first second, ∀ value ∈ vendorInfo (rollbackKey first),
    value ∈ vendorInfo (rollbackKey second) → first = second

/-- Of two chained partitions one has a location that is given to it, and the other one keeps a
different location of the vendor build. -/
def KeepsFreeLocations (simpleAtoi : Text → Option Int)
    (vendorInfo systemInfo combinedDpInfo : MiscInfo) (systemPartitions : List Text) : Prop :=
  ∀ given ∈ vbmetaPartitions, ∀ kept ∈ vbmetaPartitions,
    Chained vendorInfo systemInfo combinedDpInfo systemPartitions given →
    Chained vendorInfo systemInfo combinedDpInfo systemPartitions kept →
    ∀ index ∈ systemLocations simpleAtoi systemInfo systemPartitions (rollbackKey given),
      systemLocations simpleAtoi systemInfo systemPartitions (rollbackKey kept) = none →
        some (Decimal.print index) ≠ vendorInfo (rollbackKey kept)

/-- The locations of the chained partitions are distinct exactly if no partition keeps a location
that another one is given. -/
theorem chained_locations_distinct_iff (distinct : DistinctLocations vendorInfo)
    (notCombined : ∀ name, combinedDpInfo (rollbackKey name) = none)
    (isMerged : mergeMiscInfos simpleAtoi vendorInfo systemInfo combinedDpInfo systemPartitions =
      .ok merged) {keys pubKeys : TestKeys} {imagePath : Text} {args : VbmetaArgs}
    (isArgs : getVbmetaArgs merged keys pubKeys imagePath = .ok args) :
    (args.chainedPartitions.map (·.rollbackIndex)).Nodup ↔
      KeepsFreeLocations simpleAtoi vendorInfo systemInfo combinedDpInfo systemPartitions := by
  have locations := chainedPartitions_locations isArgs
  have location (name : Text) := (merged_rollbackKey isMerged (notCombined name)).2
  have given := (merged_rollbackKey isMerged (notCombined [])).1
  have isChainedName (name : Text) : name ∈ vbmetaPartitions.filter merged.isChained ↔
      name ∈ vbmetaPartitions ∧
        Chained vendorInfo systemInfo combinedDpInfo systemPartitions name := by
    rw [List.mem_filter, isChained_iff isMerged]
  have names : (vbmetaPartitions.filter merged.isChained).Nodup :=
    List.Nodup.filter _ (by decide)
  have asOptions : (args.chainedPartitions.map (·.rollbackIndex)).Nodup ↔
      ((vbmetaPartitions.filter merged.isChained).map fun name => merged (rollbackKey name)).Nodup := by
    rw [← locations, ← List.nodup_map_iff (Option.some_injective Text), List.map_map]
    rfl
  rw [asOptions, List.nodup_map_iff_inj_on names]
  constructor
  · intro injective first isFirst second isSecond firstChained secondChained index isGiven isKept same
    have together := injective first ((isChainedName first).mpr ⟨isFirst, firstChained⟩) second
      ((isChainedName second).mpr ⟨isSecond, secondChained⟩)
    rw [location, location, mergedLocation, mergedLocation, Option.mem_def.mp isGiven, isKept]
      at together
    rcases together same with rfl
    rw [Option.mem_def.mp isGiven] at isKept
    cases isKept
  · intro free first isFirst second isSecond same
    rcases (isChainedName first).mp isFirst with ⟨firstIn, firstChained⟩
    rcases (isChainedName second).mp isSecond with ⟨secondIn, secondChained⟩
    have present : (merged (rollbackKey second)).isSome := by
      have member : merged (rollbackKey second) ∈
          (vbmetaPartitions.filter merged.isChained).map fun name => merged (rollbackKey name) :=
        List.mem_map_of_mem isSecond
      rw [← locations] at member
      rcases List.mem_map.mp member with ⟨partition, -, isPartition⟩
      rw [← isPartition]
      rfl
    rw [location, mergedLocation] at same
    rw [location, mergedLocation] at same present
    cases firstGiven : systemLocations simpleAtoi systemInfo systemPartitions (rollbackKey first) with
    | some index =>
        rw [firstGiven] at same
        cases secondGiven : systemLocations simpleAtoi systemInfo systemPartitions
            (rollbackKey second) with
        | some other =>
            rw [secondGiven] at same
            rcases print_injective (Option.some.inj same) with rfl
            exact rollbackKey_injective (given.once _ _ index firstGiven secondGiven)
        | none =>
            rw [secondGiven] at same
            exact absurd same (free first firstIn second secondIn firstChained secondChained index
              firstGiven secondGiven)
    | none =>
        rw [firstGiven] at same
        cases secondGiven : systemLocations simpleAtoi systemInfo systemPartitions
            (rollbackKey second) with
        | some other =>
            rw [secondGiven] at same
            exact absurd same.symm (free second secondIn first firstIn secondChained firstChained
              other secondGiven firstGiven)
        | none =>
            rw [secondGiven] at same present
            rcases Option.isSome_iff_exists.mp present with ⟨value, isValue⟩
            exact distinct first second value (same.trans isValue) isValue

/-! ## Two builds -/

def chaining (name location : Text) : MiscInfo := fun key =>
  if key = rollbackKey name then some location
  else if key = keyPathKey name ∨ key = "avb_vbmeta_key_path".toList then some "key".toList
  else if key = avbKey name "_algorithm".toList ∨ key = "avb_vbmeta_algorithm".toList then
    some "SHA256_RSA4096".toList
  else none

def noInfo : MiscInfo := fun _ => none

theorem rollbackKey_ne_avbKey {suffix : Text} (short : suffix.length ≤ rollbackIndexSuffix.length)
    (noSuffix : ¬ suffix <:+ rollbackIndexSuffix) (name other : Text) :
    rollbackKey other ≠ avbKey name suffix := by
  intro same
  have isSuffix : suffix <:+ rollbackKey other := by
    rw [same]
    exact List.suffix_append _ _
  exact noSuffix (List.suffix_of_suffix_length_le isSuffix (List.suffix_append _ _) short)

theorem distinctLocations_chaining (name location : Text) :
    DistinctLocations (chaining name location) := by
  have onlyOne (other value : Text) (isValue : value ∈ chaining name location (rollbackKey other)) :
      other = name := by
    by_contra different
    have notLocation : rollbackKey other ≠ rollbackKey name := fun same =>
      different (rollbackKey_injective same)
    have notKeyPath : rollbackKey other ≠ keyPathKey name :=
      rollbackKey_ne_avbKey (by decide) (by decide) name other
    have notAlgorithm : rollbackKey other ≠ avbKey name "_algorithm".toList :=
      rollbackKey_ne_avbKey (by decide) (by decide) name other
    have notVbmetaKeyPath : rollbackKey other ≠ "avb_vbmeta_key_path".toList :=
      rollbackKey_ne_avbKey (by decide) (by decide) "vbmeta".toList other
    have notVbmetaAlgorithm : rollbackKey other ≠ "avb_vbmeta_algorithm".toList :=
      rollbackKey_ne_avbKey (by decide) (by decide) "vbmeta".toList other
    rw [chaining, if_neg notLocation, if_neg (not_or.mpr ⟨notKeyPath, notVbmetaKeyPath⟩),
      if_neg (not_or.mpr ⟨notAlgorithm, notVbmetaAlgorithm⟩)] at isValue
    cases isValue
  intro first second value isFirst isSecond
  rw [onlyOne first value isFirst, onlyOne second value isSecond]

instance {systemPartitions : List Text} {name : Text} :
    Decidable (Chained vendorInfo systemInfo combinedDpInfo systemPartitions name) :=
  inferInstanceAs (Decidable (_ ∨ _ ∨ _))

instance {systemPartitions : List Text} :
    Decidable (KeepsFreeLocations simpleAtoi vendorInfo systemInfo combinedDpInfo
      systemPartitions) :=
  inferInstanceAs (Decidable (∀ given ∈ vbmetaPartitions, ∀ kept ∈ vbmetaPartitions,
    Chained vendorInfo systemInfo combinedDpInfo systemPartitions given →
    Chained vendorInfo systemInfo combinedDpInfo systemPartitions kept →
    ∀ index ∈ systemLocations simpleAtoi systemInfo systemPartitions (rollbackKey given),
      systemLocations simpleAtoi systemInfo systemPartitions (rollbackKey kept) = none →
        some (Decimal.print index) ≠ vendorInfo (rollbackKey kept)))

def mergedArgs (vendorLocation systemLocation : Text) : Result VbmetaArgs := do
  let merged ← mergeMiscInfos Decimal.stoi (chaining "vendor".toList vendorLocation)
    (chaining "boot".toList systemLocation) noInfo ["boot".toList]
  getVbmetaArgs merged ⟨[], []⟩ ⟨[], []⟩ []

theorem chained_locations_distinct_one_two :
    ∃ args, mergedArgs ['1'] ['2'] = .ok args ∧
      (args.chainedPartitions.map (·.rollbackIndex)).Nodup := by
  have succeeds : ((mergedArgs ['1'] ['2']).map fun _ => ()) = .ok () := by decide +kernel
  cases isArgs : mergedArgs ['1'] ['2'] with
  | error failure =>
      rw [isArgs] at succeeds
      cases succeeds
  | ok args =>
      rcases Result.bind_eq_ok.mp isArgs with ⟨merged, isMerged, fromMerged⟩
      refine ⟨args, rfl, (chained_locations_distinct_iff (distinctLocations_chaining _ _)
        (fun _ => rfl) isMerged fromMerged).mpr ?_⟩
      decide +kernel

/-- Both builds have location 1. -/
theorem vendor_location_given_again :
    ¬ ∀ (simpleAtoi : Text → Option Int) (vendorInfo systemInfo combinedDpInfo : MiscInfo)
        (systemPartitions : List Text) (merged : MiscInfo) (keys pubKeys : TestKeys)
        (imagePath : Text) (args : VbmetaArgs),
      DistinctLocations vendorInfo → DistinctLocations systemInfo →
        (∀ name, combinedDpInfo (rollbackKey name) = none) →
        mergeMiscInfos simpleAtoi vendorInfo systemInfo combinedDpInfo systemPartitions =
          .ok merged →
        getVbmetaArgs merged keys pubKeys imagePath = .ok args →
        (args.chainedPartitions.map (·.rollbackIndex)).Nodup := by
  intro always
  have locations : ((mergedArgs ['1'] ['1']).map fun args =>
      args.chainedPartitions.map (·.rollbackIndex)) = .ok [['1'], ['1']] := by
    decide +kernel
  cases isArgs : mergedArgs ['1'] ['1'] with
  | error failure =>
      rw [isArgs] at locations
      cases locations
  | ok args =>
      rw [isArgs] at locations
      rcases Result.bind_eq_ok.mp isArgs with ⟨merged, isMerged, fromMerged⟩
      have distinct := always _ _ _ _ _ _ _ _ _ _ (distinctLocations_chaining _ _)
        (distinctLocations_chaining _ _) (fun _ => rfl) isMerged fromMerged
      have both : args.chainedPartitions.map (·.rollbackIndex) = [['1'], ['1']] :=
        Except.ok.inj locations
      rw [both] at distinct
      revert distinct
      decide

end Cuttlefish.AssembleCvd.MiscInfo
