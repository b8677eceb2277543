import Mathlib.Data.List.Nodup
import Mathlib.Data.List.Perm.Subperm

/-! # The slots of a touch device

The table in which a `TouchDevice` keeps the contacts of its event sources. -/

namespace Cuttlefish.InputConnector

/-- `Source` has the pointers by which event sources are told apart. -/
structure TouchDevice (Source : Type) where
  slotsBySourceAndId : List ((Source × Int32) × Nat)
  activeSlots : List Bool
  trackingId : Int32

namespace TouchDevice

variable {Source : Type}

def new : TouchDevice Source := ⟨[], [], 0⟩

def numActiveSlots (device : TouchDevice Source) : Nat := device.slotsBySourceAndId.length

def useNewSlot : List Bool → Nat × List Bool
  | [] => (0, [true])
  | false :: rest => (0, true :: rest)
  | true :: rest => ((useNewSlot rest).1 + 1, true :: (useNewSlot rest).2)

section

variable [DecidableEq Source]

def find (device : TouchDevice Source) (source : Source) (id : Int32) : Option Nat :=
  (device.slotsBySourceAndId.find? fun entry => entry.1 = (source, id)).map Prod.snd

def hasSlot (device : TouchDevice Source) (source : Source) (id : Int32) : Bool :=
  (device.find source id).isSome

def getOrAcquireSlot (source : Source) (id : Int32) (device : TouchDevice Source) :
    Nat × TouchDevice Source :=
  match device.find source id with
  | some slot => (slot, device)
  | none =>
      ((useNewSlot device.activeSlots).1,
        { device with
          slotsBySourceAndId := ((source, id), (useNewSlot device.activeSlots).1) ::
            device.slotsBySourceAndId
          activeSlots := (useNewSlot device.activeSlots).2 })

def releaseSlot (source : Source) (id : Int32) (device : TouchDevice Source) : TouchDevice Source :=
  match device.find source id with
  | none => device
  | some slot =>
      { device with
        slotsBySourceAndId := device.slotsBySourceAndId.filter fun entry => entry.1 ≠ (source, id)
        activeSlots := device.activeSlots.set slot false }

def eraseSource (source : Source) :
    List ((Source × Int32) × Nat) → List Bool → List ((Source × Int32) × Nat) × List Bool
  | [], active => ([], active)
  | entry :: rest, active =>
      if entry.1.1 = source then eraseSource source rest (active.set entry.2 false)
      else (entry :: (eraseSource source rest active).1, (eraseSource source rest active).2)

def onDisconnectedSource (source : Source) (device : TouchDevice Source) : TouchDevice Source :=
  let erased := eraseSource source device.slotsBySourceAndId device.activeSlots
  { device with slotsBySourceAndId := erased.1, activeSlots := erased.2 }

inductive Locked (Source : Type)
  | getOrAcquireSlot (source : Source) (id : Int32)
  | releaseSlot (source : Source) (id : Int32)
  | onDisconnectedSource (source : Source)

def perform (device : TouchDevice Source) : Locked Source → TouchDevice Source
  | .getOrAcquireSlot source id => (getOrAcquireSlot source id device).2
  | .releaseSlot source id => releaseSlot source id device
  | .onDisconnectedSource source => onDisconnectedSource source device

end

/-! ## The table is consistent -/

/-- No contact is listed twice, no slot is held twice, and the active slots are those held. -/
structure Consistent (device : TouchDevice Source) : Prop where
  contacts : (device.slotsBySourceAndId.map Prod.fst).Nodup
  slots : (device.slotsBySourceAndId.map Prod.snd).Nodup
  active : ∀ slot : Nat,
    device.activeSlots[slot]? = some true ↔ slot ∈ device.slotsBySourceAndId.map Prod.snd

theorem consistent_new : Consistent (new : TouchDevice Source) where
  contacts := List.nodup_nil
  slots := List.nodup_nil
  active := by simp [new]

theorem useNewSlot_fresh (active : List Bool) : active[(useNewSlot active).1]? ≠ some true := by
  induction active with
  | nil => simp
  | cons flag rest induction =>
      cases flag with
      | false => simp [useNewSlot]
      | true => simpa [useNewSlot] using induction

theorem useNewSlot_active (active : List Bool) (slot : Nat) :
    (useNewSlot active).2[slot]? = some true ↔
      slot = (useNewSlot active).1 ∨ active[slot]? = some true := by
  induction active generalizing slot with
  | nil =>
      cases slot with
      | zero => simp [useNewSlot]
      | succ slot => simp [useNewSlot]
  | cons flag rest induction =>
      cases flag with
      | false => cases slot <;> simp [useNewSlot]
      | true =>
          cases slot with
          | zero => simp [useNewSlot]
          | succ slot => simpa [useNewSlot] using induction slot

theorem length_useNewSlot (active : List Bool) :
    (useNewSlot active).2.length = active.length ∨
      (useNewSlot active).2.length = active.length + 1 ∧ ∀ flag ∈ active, flag = true := by
  induction active with
  | nil => exact .inr ⟨rfl, fun flag isIn => absurd isIn List.not_mem_nil⟩
  | cons flag rest induction =>
      cases flag with
      | false => exact .inl rfl
      | true =>
          rcases induction with same | ⟨longer, all⟩
          · exact .inl (by simp [useNewSlot, same])
          · exact .inr ⟨by simp [useNewSlot, longer], by simpa using all⟩

theorem Consistent.numActiveSlots_le {device : TouchDevice Source} (consistent : Consistent device) :
    device.numActiveSlots ≤ device.activeSlots.length := by
  have inside : device.slotsBySourceAndId.map Prod.snd ⊆ List.range device.activeSlots.length := by
    intro slot isHeld
    rw [List.mem_range]
    exact (List.getElem?_eq_some_iff.mp ((consistent.active slot).mpr isHeld)).1
  simpa [numActiveSlots] using (List.subperm_of_subset consistent.slots inside).length_le

theorem Consistent.length_le {device : TouchDevice Source} (consistent : Consistent device)
    (all : ∀ flag ∈ device.activeSlots, flag = true) :
    device.activeSlots.length ≤ device.numActiveSlots := by
  have inside : List.range device.activeSlots.length ⊆ device.slotsBySourceAndId.map Prod.snd := by
    intro slot isSlot
    rw [← consistent.active slot]
    have bound := List.mem_range.mp isSlot
    rw [List.getElem?_eq_getElem bound, all _ (List.getElem_mem bound)]
  simpa [numActiveSlots] using (List.subperm_of_subset List.nodup_range inside).length_le

theorem Consistent.filter {device : TouchDevice Source} (consistent : Consistent device) (keep : (Source × Int32) → Bool)
    {active : List Bool} (isActive : ∀ slot : Nat, active[slot]? = some true ↔
      device.activeSlots[slot]? = some true ∧
        slot ∉ (device.slotsBySourceAndId.filter fun entry => ¬ keep entry.1).map Prod.snd) :
    Consistent { device with
      slotsBySourceAndId := device.slotsBySourceAndId.filter fun entry => keep entry.1
      activeSlots := active } where
  contacts := (List.filter_sublist.map _).nodup consistent.contacts
  slots := (List.filter_sublist.map _).nodup consistent.slots
  active := by
    intro slot
    rw [isActive, consistent.active]
    constructor
    · rintro ⟨isHeld, notErased⟩
      rcases List.mem_map.mp isHeld with ⟨entry, isEntry, rfl⟩
      refine List.mem_map.mpr ⟨entry, List.mem_filter.mpr ⟨isEntry, ?_⟩, rfl⟩
      by_contra notKept
      exact notErased (List.mem_map.mpr ⟨entry, List.mem_filter.mpr ⟨isEntry, by simpa using notKept⟩,
        rfl⟩)
    · intro isKept
      rcases List.mem_map.mp isKept with ⟨entry, isEntry, rfl⟩
      rw [List.mem_filter] at isEntry
      refine ⟨List.mem_map.mpr ⟨entry, isEntry.1, rfl⟩, ?_⟩
      intro isErased
      rcases List.mem_map.mp isErased with ⟨other, isOther, same⟩
      rw [List.mem_filter] at isOther
      have equal := List.inj_on_of_nodup_map consistent.slots isOther.1 isEntry.1 same
      rw [equal] at isOther
      simp [isEntry.2] at isOther

section

variable [DecidableEq Source] {device : TouchDevice Source} {source : Source} {id : Int32} {slot : Nat}

theorem find_eq_none :
    device.find source id = none ↔ (source, id) ∉ device.slotsBySourceAndId.map Prod.fst := by
  rw [find, Option.map_eq_none_iff, List.find?_eq_none]
  constructor
  · intro none isIn
    rcases List.mem_map.mp isIn with ⟨entry, isEntry, same⟩
    exact none entry isEntry (by simpa using same)
  · intro absent entry isEntry same
    exact absent (List.mem_map.mpr ⟨entry, isEntry, by simpa using same⟩)

theorem Consistent.find_eq_some (consistent : Consistent device) :
    device.find source id = some slot ↔ ((source, id), slot) ∈ device.slotsBySourceAndId := by
  constructor
  · intro found
    rcases Option.map_eq_some_iff.mp found with ⟨entry, isEntry, rfl⟩
    have same : entry.1 = (source, id) := by simpa using List.find?_some isEntry
    rw [← same]
    exact List.mem_of_find?_eq_some isEntry
  · intro isEntry
    rcases found : device.find source id with _ | other
    · rw [find_eq_none] at found
      exact absurd (List.mem_map.mpr ⟨_, isEntry, rfl⟩) found
    · rcases Option.map_eq_some_iff.mp found with ⟨entry, isOther, rfl⟩
      have same : entry.1 = (source, id) := by simpa using List.find?_some isOther
      have equal := List.inj_on_of_nodup_map consistent.contacts
        (List.mem_of_find?_eq_some isOther) isEntry same
      rw [equal]

theorem Consistent.getOrAcquireSlot (consistent : Consistent device) :
    Consistent (getOrAcquireSlot source id device).2 := by
  rw [TouchDevice.getOrAcquireSlot]
  cases found : device.find source id with
  | some slot => exact consistent
  | none =>
      have fresh := useNewSlot_fresh device.activeSlots
      rw [ne_eq, consistent.active] at fresh
      exact
        { contacts := List.nodup_cons.mpr ⟨find_eq_none.mp found, consistent.contacts⟩
          slots := List.nodup_cons.mpr ⟨fresh, consistent.slots⟩
          active := by
            intro slot
            rw [useNewSlot_active, consistent.active]
            simp }

theorem Consistent.releaseSlot (consistent : Consistent device) :
    Consistent (releaseSlot source id device) := by
  rw [TouchDevice.releaseSlot]
  cases found : device.find source id with
  | none => exact consistent
  | some slot =>
      have isEntry := consistent.find_eq_some.mp found
      apply consistent.filter fun key => key ≠ (source, id)
      intro other
      have isErased : other ∈ (device.slotsBySourceAndId.filter
          fun entry => ¬ decide (entry.1 ≠ (source, id)) = true).map Prod.snd ↔ other = slot := by
        constructor
        · intro isIn
          rcases List.mem_map.mp isIn with ⟨entry, isErased, rfl⟩
          rw [List.mem_filter] at isErased
          have same : entry.1 = (source, id) := by simpa using isErased.2
          exact congrArg Prod.snd
            (List.inj_on_of_nodup_map consistent.contacts isErased.1 isEntry same)
        · rintro rfl
          exact List.mem_map.mpr ⟨_, List.mem_filter.mpr ⟨isEntry, by simp⟩, rfl⟩
      rw [isErased, List.getElem?_set]
      by_cases same : slot = other
      · subst same
        simp
      · rw [if_neg same]
        exact ⟨fun isActive => ⟨isActive, fun equal => same equal.symm⟩, And.left⟩

theorem eraseSource_entries (entries : List ((Source × Int32) × Nat)) (active : List Bool) :
    (eraseSource source entries active).1 = entries.filter fun entry => entry.1.1 ≠ source := by
  induction entries generalizing active with
  | nil => rfl
  | cons entry rest induction =>
      rw [eraseSource]
      split
      · rename_i same
        rw [induction, List.filter_cons_of_neg (by simpa using same)]
      · rename_i other
        rw [List.filter_cons_of_pos (by simpa using other)]
        simp only [induction]

theorem eraseSource_active (entries : List ((Source × Int32) × Nat)) (active : List Bool)
    (slot : Nat) :
    (eraseSource source entries active).2[slot]? = some true ↔
      active[slot]? = some true ∧
        slot ∉ (entries.filter fun entry => entry.1.1 = source).map Prod.snd := by
  induction entries generalizing active with
  | nil => simp [eraseSource]
  | cons entry rest induction =>
      rw [eraseSource]
      split
      · rename_i same
        rw [induction, List.filter_cons_of_pos (by simpa using same), List.map_cons, List.mem_cons,
          List.getElem?_set]
        by_cases equal : entry.2 = slot
        · simp [equal]
        · rw [if_neg equal]
          simp [Ne.symm equal]
      · rename_i other
        rw [List.filter_cons_of_neg (by simpa using other)]
        exact induction active

theorem length_eraseSource (entries : List ((Source × Int32) × Nat)) (active : List Bool) :
    (eraseSource source entries active).2.length = active.length := by
  induction entries generalizing active with
  | nil => rfl
  | cons entry rest induction =>
      rw [eraseSource]
      split
      · rw [induction, List.length_set]
      · exact induction active

theorem Consistent.onDisconnectedSource (consistent : Consistent device) :
    Consistent (onDisconnectedSource source device) := by
  rw [TouchDevice.onDisconnectedSource]
  simp only [eraseSource_entries]
  apply consistent.filter fun key => key.1 ≠ source
  intro slot
  rw [eraseSource_active]
  simp

theorem Consistent.perform (consistent : Consistent device) (locked : Locked Source) :
    Consistent (device.perform locked) := by
  cases locked with
  | getOrAcquireSlot source id => exact consistent.getOrAcquireSlot
  | releaseSlot source id => exact consistent.releaseSlot
  | onDisconnectedSource source => exact consistent.onDisconnectedSource

/-! ## How many slots there are -/

def peak (device : TouchDevice Source) : List (Locked Source) → Nat
  | [] => device.numActiveSlots
  | locked :: rest => max device.numActiveSlots (peak (device.perform locked) rest)

theorem Consistent.length_perform (consistent : Consistent device) (locked : Locked Source) :
    (device.perform locked).activeSlots.length =
      max device.activeSlots.length (device.perform locked).numActiveSlots := by
  have fits := (consistent.perform locked).numActiveSlots_le
  have keeps : (device.perform locked).activeSlots.length = device.activeSlots.length →
      (device.perform locked).activeSlots.length =
        max device.activeSlots.length (device.perform locked).numActiveSlots := by
    intro same
    omega
  cases locked with
  | getOrAcquireSlot source id =>
      rw [TouchDevice.perform, TouchDevice.getOrAcquireSlot] at fits keeps ⊢
      cases found : device.find source id with
      | some slot =>
          rw [found] at keeps
          exact keeps rfl
      | none =>
          rw [found] at fits keeps
          rcases length_useNewSlot device.activeSlots with same | ⟨longer, all⟩
          · exact keeps same
          · have full := consistent.length_le all
            have few := consistent.numActiveSlots_le
            simp only [TouchDevice.numActiveSlots, List.length_cons] at full few ⊢
            omega
  | releaseSlot source id =>
      apply keeps
      rw [TouchDevice.perform, TouchDevice.releaseSlot]
      cases device.find source id with
      | none => rfl
      | some slot => exact List.length_set
  | onDisconnectedSource source => exact keeps (length_eraseSource _ _)

theorem Consistent.length_foldl (consistent : Consistent device) (actions : List (Locked Source)) :
    (actions.foldl TouchDevice.perform device).activeSlots.length =
      max device.activeSlots.length (device.peak actions) := by
  induction actions generalizing device with
  | nil =>
      have fits := consistent.numActiveSlots_le
      rw [List.foldl_nil, peak]
      omega
  | cons locked rest induction =>
      have fits := consistent.numActiveSlots_le
      have first := consistent.length_perform locked
      have least : (device.perform locked).numActiveSlots ≤ (device.perform locked).peak rest := by
        cases rest with
        | nil => exact Nat.le_refl _
        | cons next rest => exact Nat.le_max_left _ _
      rw [List.foldl_cons, induction (consistent.perform locked), peak]
      omega

/-- However the threads of the event sources take turns, no two contacts share a slot, the slots
that are active are those of contacts, and there are as many slots as there have been contacts at
once. -/
theorem slots_of_actions (actions : List (Locked Source)) :
    Consistent (actions.foldl perform (new : TouchDevice Source)) ∧
      (actions.foldl perform (new : TouchDevice Source)).activeSlots.length =
        peak (new : TouchDevice Source) actions := by
  constructor
  · have keeps : ∀ device : TouchDevice Source, Consistent device →
        Consistent (actions.foldl perform device) := by
      induction actions with
      | nil => exact fun device consistent => consistent
      | cons locked rest induction =>
          exact fun device consistent => induction _ (consistent.perform locked)
    exact keeps new consistent_new
  · rw [consistent_new.length_foldl]
    simp [new]

end

end TouchDevice

end Cuttlefish.InputConnector
