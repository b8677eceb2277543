import Cuttlefish.InputConnector.TouchStream
import Cuttlefish.Foundation.Decimal
import Cuttlefish.Result

/-! # The event sinks of streaming clients

Clients send touches through sinks of their own to the devices that all of them share, and
disconnect at any time. -/

namespace Cuttlefish.InputConnector

def absX (x : Int32) : InputEvent := ⟨3, 0, x⟩
def absY (y : Int32) : InputEvent := ⟨3, 1, y⟩

/-- `InputDevices`, as far as touches go: the devices by their labels, each with what has been
written to its connection. Devices without multi-touch keep no contacts. -/
structure InputDevices (Source : Type) where
  multitouchDevices : Text → Option (TouchDevice Source × Bytes)
  touchDevices : Text → Option Bytes

/-- What clients do through their sinks. A sink is destroyed when its client disconnects. -/
inductive Call (Source : Type)
  | sendMultiTouchEvent (label : Text) (slots : List MultitouchSlot) (down : Bool)
  | destroy (sink : Source)

namespace InputDevices

section

variable {Source : Type}

def sendTouchEvent (label : Text) (x y : Int32) (down : Bool) (devices : InputDevices Source) :
    Result Unit × InputDevices Source :=
  match devices.touchDevices label with
  | none => (.error (.err ("Unknown touch device: " ++ String.ofList label)), devices)
  | some written =>
      (.ok (), { devices with
        touchDevices := Function.update devices.touchDevices label
          (some (written ++ eventData [absX x, absY y, btnTouch down, synReport])) })

def sendTouchEvents (label : Text) (down : Bool) :
    List MultitouchSlot → InputDevices Source → Result Unit × InputDevices Source
  | [], devices => (.ok (), devices)
  | slot :: rest, devices =>
      match sendTouchEvent label slot.x slot.y down devices with
      | (.ok (), devices) => sendTouchEvents label down rest devices
      | failed => failed

end

section

variable {Source : Type} [DecidableEq Source]

def sendMultiTouchEvent (address : Text → Source) (label : Text) (slots : List MultitouchSlot)
    (down : Bool) (devices : InputDevices Source) : Result Unit × InputDevices Source :=
  match devices.multitouchDevices label with
  | none => sendTouchEvents label down slots devices
  | some (device, written) =>
      let sent := device.sendMultiTouchEvent (address label) slots down
      (.ok (), { devices with
        multitouchDevices := Function.update devices.multitouchDevices label
          (some (sent.2, written ++ sent.1)) })

/-- `~EventSinkImpl`. -/
def destroySink (sink : Source) (devices : InputDevices Source) : InputDevices Source :=
  { devices with
    multitouchDevices := fun label => (devices.multitouchDevices label).map
      fun device => (device.1.onDisconnectedSource sink, device.2) }

def call (address : Text → Source) (devices : InputDevices Source) : Call Source → InputDevices Source
  | .sendMultiTouchEvent label slots down =>
      (sendMultiTouchEvent address label slots down devices).2
  | .destroy sink => destroySink sink devices

end

end InputDevices

/-! ## Contacts belong to the device itself -/

section

variable {Source : Type} {devices : InputDevices Source} {address : Text → Source}

def TouchDevice.OwnedBy (this : Source) (device : TouchDevice Source) : Prop :=
  ∀ entry ∈ device.slotsBySourceAndId, entry.1.1 = this

def InputDevices.Owned (address : Text → Source) (devices : InputDevices Source) : Prop :=
  ∀ label device written, devices.multitouchDevices label = some (device, written) →
    device.OwnedBy (address label)

def InputDevices.Built (devices : InputDevices Source) : Prop :=
  ∀ label device written, devices.multitouchDevices label = some (device, written) →
    device = TouchDevice.new ∧ written = []

theorem InputDevices.Built.owned (built : devices.Built) : devices.Owned address := by
  intro label device written isDevice
  rw [(built label device written isDevice).1]
  exact fun entry isEntry => absurd isEntry List.not_mem_nil

end

theorem sendTouchEvents_multitouchDevices {Source : Type} {devices : InputDevices Source}
    {label : Text} (down : Bool) (slots : List MultitouchSlot) :
    (devices.sendTouchEvents label down slots).2.multitouchDevices = devices.multitouchDevices := by
  induction slots generalizing devices with
  | nil => rfl
  | cons slot rest induction =>
      rw [InputDevices.sendTouchEvents]
      have first : (devices.sendTouchEvent label slot.x slot.y down).2.multitouchDevices =
          devices.multitouchDevices := by
        rw [InputDevices.sendTouchEvent]
        split <;> rfl
      split
      · rename_i sent isSent
        rw [isSent] at first
        rw [induction, first]
      · exact first

section

variable {Source : Type} [DecidableEq Source]

namespace TouchDevice

variable {device : TouchDevice Source} {this sink : Source}

theorem OwnedBy.releaseSlot (owned : device.OwnedBy this) (id : Int32) :
    (releaseSlot this id device).OwnedBy this := by
  rw [TouchDevice.releaseSlot]
  split
  · exact owned
  · exact fun entry isEntry => owned entry (List.mem_filter.mp isEntry).1

theorem OwnedBy.getOrAcquireSlot (owned : device.OwnedBy this) (id : Int32) :
    (getOrAcquireSlot this id device).2.OwnedBy this := by
  rw [TouchDevice.getOrAcquireSlot]
  split
  · exact owned
  · exact List.forall_mem_cons.mpr ⟨rfl, owned⟩

theorem OwnedBy.sendSlots (owned : device.OwnedBy this) (down : Bool) (slots : List MultitouchSlot) :
    (sendSlots this down slots device).2.OwnedBy this := by
  induction slots generalizing device with
  | nil => exact owned
  | cons slot rest induction =>
      apply induction
      have acquired := owned.getOrAcquireSlot slot.id
      rw [sendSlot]
      split
      · split
        · exact acquired
        · exact acquired
      · exact acquired.releaseSlot slot.id

theorem OwnedBy.onDisconnectedSource (owned : device.OwnedBy this) (different : sink ≠ this) :
    onDisconnectedSource sink device = device := by
  have others : ∀ entry ∈ device.slotsBySourceAndId, entry.1.1 ≠ sink :=
    fun entry isEntry same => different (same.symm.trans (owned entry isEntry))
  have keeps : ∀ entries : List ((Source × Int32) × Nat), (∀ entry ∈ entries, entry.1.1 ≠ sink) →
      eraseSource sink entries device.activeSlots = (entries, device.activeSlots) := by
    intro entries others
    induction entries with
    | nil => rfl
    | cons entry rest induction =>
        rw [List.forall_mem_cons] at others
        rw [eraseSource, if_neg others.1, induction others.2]
  rw [TouchDevice.onDisconnectedSource, keeps _ others]

end TouchDevice

open TouchDevice

/-! ## Disconnecting -/

variable {address : Text → Source} {devices : InputDevices Source} {label : Text}

def Call.onDevice (address : Text → Source) (label : Text) (device : TouchDevice Source × Bytes) :
    Call Source → TouchDevice Source × Bytes
  | .sendMultiTouchEvent other slots down =>
      if other = label then
        ((device.1.sendMultiTouchEvent (address label) slots down).2,
          device.2 ++ (device.1.sendMultiTouchEvent (address label) slots down).1)
      else device
  | .destroy sink => (device.1.onDisconnectedSource sink, device.2)

theorem call_multitouchDevices (address : Text → Source) (label : Text)
    (devices : InputDevices Source) (made : Call Source) :
    (devices.call address made).multitouchDevices label =
      (devices.multitouchDevices label).map fun device => made.onDevice address label device := by
  cases made with
  | destroy sink => rfl
  | sendMultiTouchEvent other slots down =>
      rw [InputDevices.call, InputDevices.sendMultiTouchEvent]
      cases found : devices.multitouchDevices other with
      | none =>
          simp only [sendTouchEvents_multitouchDevices]
          by_cases same : other = label
          · rw [← same, found]
            rfl
          · simp [Call.onDevice, same]
      | some device =>
          by_cases same : other = label
          · subst same
            simp [found, Call.onDevice]
          · simp [Call.onDevice, same, Function.update_of_ne (Ne.symm same)]

theorem InputDevices.Owned.call (owned : devices.Owned address) (made : Call Source) :
    (devices.call address made).Owned address := by
  intro label device written isDevice
  rw [call_multitouchDevices] at isDevice
  rcases Option.map_eq_some_iff.mp isDevice with ⟨before, isBefore, same⟩
  have ownedBefore := owned label before.1 before.2 isBefore
  cases made with
  | destroy sink =>
      cases same
      intro entry isEntry
      apply ownedBefore
      simp only [TouchDevice.onDisconnectedSource, eraseSource_entries] at isEntry
      exact (List.mem_filter.mp isEntry).1
  | sendMultiTouchEvent other slots down =>
      rw [Call.onDevice] at same
      split at same
      · cases same
        exact ownedBefore.sendSlots down slots
      · cases same
        exact ownedBefore

theorem InputDevices.Owned.destroySink (owned : devices.Owned address) {sink : Source}
    (different : ∀ label, sink ≠ address label) : devices.destroySink sink = devices := by
  rcases devices with ⟨multitouchDevices, touchDevices⟩
  rw [InputDevices.destroySink]
  congr 1
  funext label
  change (multitouchDevices label).map _ = multitouchDevices label
  cases isDevice : multitouchDevices label with
  | none => rfl
  | some device =>
      rw [Option.map_some, (owned label device.1 device.2 isDevice).onDisconnectedSource
        (different label)]

def Call.isSend : Call Source → Bool
  | .sendMultiTouchEvent _ _ _ => true
  | .destroy _ => false

/-- Sinks release nothing when they are destroyed: contacts are kept under the address of their
device, and what clients touched when they disconnected stays down. -/
theorem destroyed_sinks_release_nothing (calls : List (Call Source)) (owned : devices.Owned address)
    (sinks : ∀ sink, .destroy sink ∈ calls → ∀ label, sink ≠ address label) :
    calls.foldl (InputDevices.call address) devices =
      (calls.filter Call.isSend).foldl (InputDevices.call address) devices := by
  induction calls generalizing devices with
  | nil => rfl
  | cons made rest induction =>
      have sinksRest : ∀ sink, .destroy sink ∈ rest → ∀ label, sink ≠ address label :=
        fun sink isIn => sinks sink (List.mem_cons_of_mem made isIn)
      have later := induction (owned.call made) sinksRest
      cases made with
      | destroy sink =>
          rw [List.foldl_cons, List.filter_cons_of_neg (by simp [Call.isSend]), later]
          rw [InputDevices.call, owned.destroySink (sinks sink List.mem_cons_self)]
      | sendMultiTouchEvent label slots down =>
          rw [List.foldl_cons, List.filter_cons_of_pos rfl, List.foldl_cons, later]

/-! ## What the guest sees -/

/-- The contacts that are down at a device when all clients' calls are taken together. -/
def Call.touches (label : Text) (touches : Touches) : Call Source → Touches
  | .sendMultiTouchEvent other slots down =>
      if other = label then slots.foldl (Touches.touch down) touches else touches
  | .destroy _ => touches

def Call.count (label : Text) : Call Source → Nat
  | .sendMultiTouchEvent other slots _ => if other = label then slots.length else 0
  | .destroy _ => 0

def Call.total (label : Text) : List (Call Source) → Nat
  | [] => 0
  | next :: rest => next.count label + total label rest

theorem Shows.sendSlots {this : Source} {device : TouchDevice Source} {guest : Guest}
    {touches : Touches} {made : Nat} (shows_ : Shows this device guest touches made) (down : Bool)
    (slots : List MultitouchSlot) (notTooMany : made + slots.length ≤ 2147483647) :
    Shows this (sendSlots this down slots device).2
      ((sendSlots this down slots device).1.foldl Guest.receive guest)
      (slots.foldl (Touches.touch down) touches) (made + slots.length) := by
  induction slots generalizing device guest touches made with
  | nil => exact shows_
  | cons slot rest induction =>
      rw [List.length_cons] at notTooMany
      have first := shows_.sendSlot (by omega) down slot
      have later := induction first (by omega)
      rw [TouchDevice.sendSlots, List.foldl_append, List.length_cons, List.foldl_cons]
      have sum : made + (rest.length + 1) = made + 1 + rest.length := by omega
      rw [sum]
      exact later

def Follows (address : Text → Source) (label : Text) (devices : InputDevices Source)
    (touches : Touches) (made : Nat) : Prop :=
  ∃ device events, devices.multitouchDevices label = some (device, eventData events) ∧
    Shows (address label) device (events.foldl Guest.receive Guest.new) touches made

theorem Follows.call {touches : Touches} {made : Nat}
    (follows : Follows address label devices touches made) (owned : devices.Owned address)
    (next : Call Source) (sinks : ∀ sink, next = .destroy sink → sink ≠ address label)
    (notTooMany : made + next.count label ≤ 2147483647) :
    Follows address label (devices.call address next) (next.touches label touches)
      (made + next.count label) := by
  rcases follows with ⟨device, events, isDevice, shows_⟩
  cases next with
  | destroy sink =>
      refine ⟨device, events, ?_, shows_⟩
      rw [call_multitouchDevices, isDevice]
      simp only [Option.map_some, Call.onDevice,
        (owned label device _ isDevice).onDisconnectedSource (sinks sink rfl)]
  | sendMultiTouchEvent other slots down =>
      by_cases same : other = label
      · simp only [Call.count, Call.touches, if_pos same] at notTooMany ⊢
        have sent := shows_.sendSlots down slots notTooMany
        refine ⟨(TouchDevice.sendSlots (address label) down slots device).2,
          events ++ ((TouchDevice.sendSlots (address label) down slots device).1 ++ [synReport]),
          ?_, ?_⟩
        · rw [call_multitouchDevices, isDevice]
          simp only [Option.map_some, Call.onDevice, if_pos same, TouchDevice.sendMultiTouchEvent]
          rw [eventData, eventData, eventData, ← List.flatMap_append]
        · rw [List.foldl_append, List.foldl_append]
          exact sent
      · simp only [Call.count, Call.touches, if_neg same]
        refine ⟨device, events, ?_, shows_⟩
        rw [call_multitouchDevices, isDevice]
        simp [Call.onDevice, same]

theorem Follows.calls {touches : Touches} {made : Nat}
    (follows : Follows address label devices touches made) (owned : devices.Owned address)
    (calls : List (Call Source)) (sinks : ∀ sink, .destroy sink ∈ calls → sink ≠ address label)
    (notTooMany : made + Call.total label calls ≤ 2147483647) :
    Follows address label (calls.foldl (InputDevices.call address) devices)
      (calls.foldl (Call.touches label) touches) (made + Call.total label calls) := by
  induction calls generalizing devices touches made with
  | nil => exact follows
  | cons next rest induction =>
      rw [Call.total] at notTooMany ⊢
      have first := follows.call owned next
        (fun sink same => sinks sink (same ▸ List.mem_cons_self)) (by omega)
      have later := induction first (owned.call next)
        (fun sink isIn => sinks sink (List.mem_cons_of_mem next isIn)) (by omega)
      rw [← Nat.add_assoc]
      exact later

theorem shows_new (this : Source) : Shows this TouchDevice.new Guest.new Touches.none_ 0 where
  consistent := consistent_new
  few := Nat.le_refl 0
  counted := Nat.le_refl 0
  tracking := rfl
  untouched := fun _ _ => rfl
  shown := fun _ _ found => by cases found
  silent := fun _ _ => rfl

/-- The guest sees just the contacts that are down, each in a slot of its own. -/
def Guest.Sees (guest : Guest) (touches : Touches) : Prop :=
  ∃ slotOf : Int32 → Int32,
    (∀ id other, (touches.contact id).isSome → (touches.contact other).isSome →
      slotOf id = slotOf other → id = other) ∧
    (∀ id contact, touches.contact id = some contact →
      (guest.slots (slotOf id)).Shows contact) ∧
    ∀ slot, guest.HasContact slot ↔ ∃ id, slotOf id = slot ∧ (touches.contact id).isSome

theorem Shows.sees {this : Source} {device : TouchDevice Source} {guest : Guest}
    {touches : Touches} {made : Nat} (shows_ : Shows this device guest touches made)
    (notTooMany : made ≤ 2147483647) : guest.Sees touches := by
  have held : ∀ id, (touches.contact id).isSome → ∃ slot, device.find this id = some slot := by
    intro id isDown
    cases found : device.find this id with
    | none =>
        rw [shows_.untouched id found] at isDown
        cases isDown
    | some slot => exact ⟨slot, rfl⟩
  refine ⟨fun id => Int32.ofNat ((device.find this id).getD 0), ?_, ?_, ?_⟩
  · intro id other isDown isDownOther same
    rcases held id isDown with ⟨slot, found⟩
    rcases held other isDownOther with ⟨slotOther, foundOther⟩
    have less := shows_.consistent.find_lt found
    have lessOther := shows_.consistent.find_lt foundOther
    have few := shows_.few
    simp only [found, foundOther, Option.getD_some] at same
    have equal := ofNat_injective (by omega) (by omega) same
    subst equal
    exact shows_.consistent.find_injective found foundOther
  · intro id contact isContact
    rcases held id (by rw [isContact]; rfl) with ⟨slot, found⟩
    rcases shows_.shown id slot found with ⟨shown, isShown, _, showsContact⟩
    rw [isContact] at isShown
    cases isShown
    simpa only [found, Option.getD_some] using showsContact
  · intro slot
    constructor
    · intro hasContact
      by_contra noId
      have silent := shows_.silent slot (by
        intro id number found same
        rcases shows_.shown id number found with ⟨shown, isShown, _⟩
        exact noId ⟨id, by simp only [found, Option.getD_some, same], by rw [isShown]; rfl⟩)
      rw [Guest.HasContact, silent] at hasContact
      exact absurd hasContact (by decide)
    · rintro ⟨id, rfl, isDown⟩
      rcases held id isDown with ⟨number, found⟩
      rcases shows_.shown id number found with ⟨shown, _, isNumber, showsContact⟩
      have counted := shows_.counted
      rw [GuestSlot.Shows] at showsContact
      rw [Guest.HasContact]
      simp only [found, Option.getD_some, showsContact]
      rw [Int32.le_iff_toInt_le, Int32.toInt_ofNat_of_lt (by omega)]
      exact Int.natCast_nonneg _

/-- Whatever the clients do and whichever of them disconnect, the guest that reads what is written
for a device sees just the contacts that are down, each in a slot of its own, with the number under
which it was put down and where it was last. -/
theorem guest_sees_touches (built : devices.Built) {device : TouchDevice Source × Bytes}
    (isDevice : devices.multitouchDevices label = some device) (calls : List (Call Source))
    (sinks : ∀ sink, .destroy sink ∈ calls → sink ≠ address label)
    (notTooMany : Call.total label calls ≤ 2147483647) :
    ∃ after written, (calls.foldl (InputDevices.call address) devices).multitouchDevices label =
        some (after, written) ∧
      ((decodeEvents written).foldl Guest.receive Guest.new).Sees
        (calls.foldl (Call.touches label) Touches.none_) := by
  have isNew := built label device.1 device.2 isDevice
  have follows : Follows address label devices Touches.none_ 0 := by
    refine ⟨TouchDevice.new, [], ?_, shows_new _⟩
    rw [isDevice, ← isNew.1]
    exact congrArg some (Prod.ext rfl isNew.2)
  rcases follows.calls built.owned calls sinks (by omega) with ⟨after, events, isAfter, shows_⟩
  refine ⟨after, eventData events, isAfter, ?_⟩
  rw [decodeEvents_eventData]
  exact shows_.sees (by omega)

end

/-! ## A client that leaves -/

def screen : InputDevices Nat where
  multitouchDevices label := if label = "display_0".toList then some (TouchDevice.new, []) else none
  touchDevices _ := none

theorem built_screen : screen.Built := by
  intro label device written isDevice
  simp only [screen] at isDevice
  split at isDevice
  · cases isDevice
    exact ⟨rfl, rfl⟩
  · cases isDevice

def touchAndLeave : List (Call Nat) :=
  [.sendMultiTouchEvent "display_0".toList [⟨5, 10, 20⟩] true, .destroy 1]

theorem touchAndLeave_stays :
    touchAndLeave.foldl (InputDevices.call fun _ => 0) screen =
      [Call.sendMultiTouchEvent "display_0".toList [⟨5, 10, 20⟩] true].foldl
        (InputDevices.call fun _ => 0) screen := by
  refine destroyed_sinks_release_nothing touchAndLeave built_screen.owned ?_
  intro sink isIn label
  simp only [touchAndLeave, List.mem_cons, List.not_mem_nil, Call.destroy.injEq, or_false,
    reduceCtorEq, false_or] at isIn
  rw [isIn]
  exact Nat.one_ne_zero

theorem touchAndLeave_seen :
    ∃ after written, (touchAndLeave.foldl (InputDevices.call fun _ => 0) screen).multitouchDevices
        "display_0".toList = some (after, written) ∧
      ((decodeEvents written).foldl Guest.receive Guest.new).Sees
        (touchAndLeave.foldl (Call.touches "display_0".toList) Touches.none_) := by
  have isDevice : screen.multitouchDevices "display_0".toList = some (TouchDevice.new, []) := by
    simp only [screen]
    exact if_pos trivial
  refine guest_sees_touches built_screen isDevice touchAndLeave ?_ (by decide)
  intro sink isIn
  simp only [touchAndLeave, List.mem_cons, List.not_mem_nil, Call.destroy.injEq, or_false,
    reduceCtorEq, false_or] at isIn
  rw [isIn]
  exact Nat.one_ne_zero

end Cuttlefish.InputConnector
