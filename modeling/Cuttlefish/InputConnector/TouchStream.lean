import Cuttlefish.Foundation.LittleEndian
import Cuttlefish.InputConnector.TouchDevice
import Mathlib.Logic.Function.Basic

/-! # What the guest sees of touches

`TouchDevice::SendMultiTouchEvent` writes events of the multi-touch protocol with slots, from which
the guest keeps track of the contacts. -/

namespace Cuttlefish.InputConnector

/-! ## Events -/

structure InputEvent where
  type : UInt16
  code : UInt16
  value : Int32

def synReport : InputEvent := ⟨0, 0, 0⟩
def btnTouch (down : Bool) : InputEvent := ⟨1, 330, if down then 1 else 0⟩
def absMtSlot (slot : Nat) : InputEvent := ⟨3, 47, Int32.ofNat slot⟩
def absMtPositionX (x : Int32) : InputEvent := ⟨3, 53, x⟩
def absMtPositionY (y : Int32) : InputEvent := ⟨3, 54, y⟩
def absMtTrackingId (id : Int32) : InputEvent := ⟨3, 57, id⟩

def InputEvent.encode (event : InputEvent) : Bytes :=
  LittleEndian.encode 2 event.type.toNat ++ (LittleEndian.encode 2 event.code.toNat ++
    LittleEndian.encode 4 event.value.toUInt32.toNat)

def eventData (events : List InputEvent) : Bytes := events.flatMap InputEvent.encode

def decodeEvents : Bytes → List InputEvent
  | type₀ :: type₁ :: code₀ :: code₁ :: value₀ :: value₁ :: value₂ :: value₃ :: rest =>
      { type := UInt16.ofNat (LittleEndian.decode [type₀, type₁])
        code := UInt16.ofNat (LittleEndian.decode [code₀, code₁])
        value := (UInt32.ofNat (LittleEndian.decode [value₀, value₁, value₂, value₃])).toInt32 } ::
          decodeEvents rest
  | _ => []

theorem decodeEvents_eventData (events : List InputEvent) :
    decodeEvents (eventData events) = events := by
  induction events with
  | nil => rfl
  | cons event rest induction =>
      have head : decodeEvents (event.encode ++ eventData rest) =
          { type := UInt16.ofNat (LittleEndian.decode (LittleEndian.encode 2 event.type.toNat))
            code := UInt16.ofNat (LittleEndian.decode (LittleEndian.encode 2 event.code.toNat))
            value := (UInt32.ofNat (LittleEndian.decode
              (LittleEndian.encode 4 event.value.toUInt32.toNat))).toInt32 } ::
            decodeEvents (eventData rest) := rfl
      rw [eventData, List.flatMap_cons, ← eventData, head, induction,
        LittleEndian.decode_encode_uint16, LittleEndian.decode_encode_uint16,
        LittleEndian.decode_encode_uint32, UInt16.ofNat_toNat, UInt16.ofNat_toNat,
        UInt32.ofNat_toNat, Int32.toInt32_toUInt32]

/-! ## The device -/

structure MultitouchSlot where
  id : Int32
  x : Int32
  y : Int32

section

variable {Source : Type} [DecidableEq Source]

namespace TouchDevice

def sendSlot (this : Source) (down : Bool) (device : TouchDevice Source) (slot : MultitouchSlot) :
    List InputEvent × TouchDevice Source :=
  let isNewContact := !device.hasSlot this slot.id
  let acquired := getOrAcquireSlot this slot.id device
  if down then
    if isNewContact then
      ([btnTouch true, absMtSlot acquired.1, absMtTrackingId (acquired.2.trackingId + 1),
          absMtPositionX slot.x, absMtPositionY slot.y],
        { acquired.2 with trackingId := acquired.2.trackingId + 1 })
    else ([absMtSlot acquired.1, absMtPositionX slot.x, absMtPositionY slot.y], acquired.2)
  else
    ([absMtSlot acquired.1, absMtTrackingId (-1), btnTouch false],
      releaseSlot this slot.id acquired.2)

def sendSlots (this : Source) (down : Bool) :
    List MultitouchSlot → TouchDevice Source → List InputEvent × TouchDevice Source
  | [], device => ([], device)
  | slot :: rest, device =>
      let sent := device.sendSlot this down slot
      (sent.1 ++ (sendSlots this down rest sent.2).1, (sendSlots this down rest sent.2).2)

def sendMultiTouchEvent (this : Source) (slots : List MultitouchSlot) (down : Bool)
    (device : TouchDevice Source) : Bytes × TouchDevice Source :=
  let sent := sendSlots this down slots device
  (eventData (sent.1 ++ [synReport]), sent.2)

end TouchDevice

end

/-! ## The guest -/

structure GuestSlot where
  trackingId : Int32
  x : Int32
  y : Int32

/-- The slots of the guest's driver and the one that events are about. -/
structure Guest where
  current : Int32
  slots : Int32 → GuestSlot

namespace Guest

def new : Guest := ⟨0, fun _ => ⟨-1, 0, 0⟩⟩

def change (guest : Guest) (update : GuestSlot → GuestSlot) : Guest :=
  { guest with slots := Function.update guest.slots guest.current (update (guest.slots guest.current)) }

def receive (guest : Guest) (event : InputEvent) : Guest :=
  if event.type = 3 then
    if event.code = 47 then { guest with current := event.value }
    else if event.code = 53 then guest.change fun slot => { slot with x := event.value }
    else if event.code = 54 then guest.change fun slot => { slot with y := event.value }
    else if event.code = 57 then guest.change fun slot => { slot with trackingId := event.value }
    else guest
  else guest

def HasContact (guest : Guest) (slot : Int32) : Prop := 0 ≤ (guest.slots slot).trackingId

@[simp] theorem receive_synReport (guest : Guest) : guest.receive synReport = guest := rfl

@[simp] theorem receive_btnTouch (guest : Guest) (down : Bool) :
    guest.receive (btnTouch down) = guest := rfl

@[simp] theorem receive_absMtSlot (guest : Guest) (slot : Nat) :
    guest.receive (absMtSlot slot) = { guest with current := Int32.ofNat slot } := rfl

@[simp] theorem receive_absMtPositionX (guest : Guest) (x : Int32) :
    guest.receive (absMtPositionX x) = guest.change fun slot => { slot with x := x } := rfl

@[simp] theorem receive_absMtPositionY (guest : Guest) (y : Int32) :
    guest.receive (absMtPositionY y) = guest.change fun slot => { slot with y := y } := rfl

@[simp] theorem receive_absMtTrackingId (guest : Guest) (id : Int32) :
    guest.receive (absMtTrackingId id) = guest.change fun slot => { slot with trackingId := id } := rfl

end Guest

/-! ## The touches -/

structure Contact where
  number : Nat
  x : Int32
  y : Int32

/-- The contacts that are down, by their ids, and how many there have been so far. -/
structure Touches where
  count : Nat
  contact : Int32 → Option Contact

namespace Touches

def none_ : Touches := ⟨0, fun _ => none⟩

def touch (down : Bool) (touches : Touches) (slot : MultitouchSlot) : Touches :=
  match down, touches.contact slot.id with
  | true, none =>
      ⟨touches.count + 1, Function.update touches.contact slot.id
        (some ⟨touches.count + 1, slot.x, slot.y⟩)⟩
  | true, some contact =>
      ⟨touches.count, Function.update touches.contact slot.id
        (some { contact with x := slot.x, y := slot.y })⟩
  | false, _ => ⟨touches.count, Function.update touches.contact slot.id none⟩

end Touches

/-! ## The guest follows -/

section

variable {Source : Type} [DecidableEq Source] {this : Source} {device : TouchDevice Source}
  {guest : Guest} {touches : Touches} {made : Nat}

namespace TouchDevice

theorem find_insert {source : Source} {id other : Int32} {slot : Nat} {active : List Bool}
    {trackingId : Int32} :
    (⟨((source, id), slot) :: device.slotsBySourceAndId, active, trackingId⟩ :
        TouchDevice Source).find source other =
      if other = id then some slot else device.find source other := by
  rw [find, List.find?_cons]
  by_cases same : other = id
  · simp [same]
  · simp [same, Ne.symm same, find]

theorem find_erase {source : Source} {id other : Int32} {active : List Bool} {trackingId : Int32} :
    (⟨device.slotsBySourceAndId.filter fun entry => entry.1 ≠ (source, id), active, trackingId⟩ :
        TouchDevice Source).find source other =
      if other = id then none else device.find source other := by
  by_cases same : other = id
  · rw [if_pos same, find_eq_none, same]
    intro isIn
    rcases List.mem_map.mp isIn with ⟨entry, isEntry, isKey⟩
    simp [isKey] at isEntry
  · rw [if_neg same, find, find, List.find?_filter]
    congr 2
    funext entry
    by_cases isKey : entry.1 = (source, other)
    · simp [isKey, same]
    · simp [isKey]

theorem Consistent.find_lt {source : Source} {id : Int32} {slot : Nat}
    (consistent : Consistent device) (found : device.find source id = some slot) :
    slot < device.activeSlots.length := by
  have isHeld : slot ∈ device.slotsBySourceAndId.map Prod.snd :=
    List.mem_map.mpr ⟨_, consistent.find_eq_some.mp found, rfl⟩
  exact (List.getElem?_eq_some_iff.mp ((consistent.active slot).mpr isHeld)).1

theorem useNewSlot_lt (active : List Bool) : (useNewSlot active).1 < (useNewSlot active).2.length :=
  (List.getElem?_eq_some_iff.mp ((useNewSlot_active active _).mpr (.inl rfl))).1

theorem Consistent.find_injective {source : Source} {id other : Int32} {slot : Nat}
    (consistent : Consistent device) (found : device.find source id = some slot)
    (foundOther : device.find source other = some slot) : id = other := by
  have equal := List.inj_on_of_nodup_map consistent.slots (consistent.find_eq_some.mp found)
    (consistent.find_eq_some.mp foundOther) rfl
  exact congrArg (fun entry => entry.1.2) equal

end TouchDevice

open TouchDevice

theorem ofNat_injective {first second : Nat} (few : first < 2147483648) (fewOther : second < 2147483648)
    (same : Int32.ofNat first = Int32.ofNat second) : first = second := by
  have equal := congrArg Int32.toInt same
  rw [Int32.toInt_ofNat_of_lt few, Int32.toInt_ofNat_of_lt fewOther] at equal
  exact Int.ofNat.inj equal

def GuestSlot.Shows (guestSlot : GuestSlot) (contact : Contact) : Prop :=
  guestSlot = ⟨Int32.ofNat contact.number, contact.x, contact.y⟩

/-- The slots of the guest are those of the contacts, where so many slots have been sent. -/
structure Shows (this : Source) (device : TouchDevice Source) (guest : Guest) (touches : Touches)
    (made : Nat) : Prop where
  consistent : Consistent device
  few : device.activeSlots.length ≤ made
  counted : touches.count ≤ made
  tracking : device.trackingId = Int32.ofNat touches.count
  untouched : ∀ id, device.find this id = none → touches.contact id = none
  shown : ∀ id slot, device.find this id = some slot →
    ∃ contact, touches.contact id = some contact ∧ contact.number ≤ touches.count ∧
      (guest.slots (Int32.ofNat slot)).Shows contact
  silent : ∀ slot, (∀ id held, device.find this id = some held → slot ≠ Int32.ofNat held) →
    (guest.slots slot).trackingId = -1

theorem Shows.change (shows_ : Shows this device guest touches made) (notTooMany : made < 2147483647)
    (next : TouchDevice Source) (id current : Int32) (slot count : Nat) (guestSlot : GuestSlot)
    (contact : Option Contact) (consistent : Consistent next)
    (few : next.activeSlots.length ≤ made + 1) (counted : count ≤ made + 1)
    (atLeast : touches.count ≤ count) (tracking : next.trackingId = Int32.ofNat count)
    (isSlot : slot ≤ made)
    (others : ∀ other, other ≠ id → next.find this other = device.find this other)
    (apart : ∀ other held, other ≠ id → device.find this other = some held → held ≠ slot)
    (before : ∀ held, device.find this id = some held → held = slot)
    (after : (∃ shown, next.find this id = some slot ∧ contact = some shown ∧
        shown.number ≤ count ∧ guestSlot.Shows shown) ∨
      next.find this id = none ∧ guestSlot.trackingId = -1 ∧ contact = none) :
    Shows this next ⟨current, Function.update guest.slots (Int32.ofNat slot) guestSlot⟩
      ⟨count, Function.update touches.contact id contact⟩ (made + 1) := by
  have differs : ∀ other held, other ≠ id → device.find this other = some held →
      Int32.ofNat held ≠ Int32.ofNat slot := by
    intro other held different found same
    have less := shows_.consistent.find_lt found
    have bound := shows_.few
    exact apart other held different found (ofNat_injective (by omega) (by omega) same)
  refine ⟨consistent, few, counted, tracking, ?_, ?_, ?_⟩
  · intro other notFound
    by_cases same : other = id
    · subst same
      rcases after with ⟨shown, found, _⟩ | ⟨_, _, isNone⟩
      · rw [found] at notFound
        cases notFound
      · simp only [Function.update_self]
        exact isNone
    · simp only [Function.update_of_ne same]
      rw [others other same] at notFound
      exact shows_.untouched other notFound
  · intro other held found
    by_cases same : other = id
    · subst same
      rcases after with ⟨shown, isFound, isContact, isNumber, shows_⟩ | ⟨notFound, _⟩
      · rw [isFound] at found
        cases found
        simp only [Function.update_self]
        exact ⟨shown, isContact, isNumber, shows_⟩
      · rw [notFound] at found
        cases found
    · rw [others other same] at found
      simp only [Function.update_of_ne same, Function.update_of_ne (differs other held same found)]
      rcases shows_.shown other held found with ⟨shown, isContact, isNumber, showsContact⟩
      exact ⟨shown, isContact, Nat.le_trans isNumber atLeast, showsContact⟩
  · intro number isFree
    by_cases same : number = Int32.ofNat slot
    · subst same
      rcases after with ⟨shown, found, _⟩ | ⟨_, silent, _⟩
      · exact absurd rfl (isFree id slot found)
      · simp only [Function.update_self]
        exact silent
    · simp only [Function.update_of_ne same]
      apply shows_.silent
      intro other held found
      by_cases isId : other = id
      · rw [before held (isId ▸ found)]
        exact same
      · exact isFree other held ((others other isId).trans found)

theorem Shows.sendSlot_of_found (shows_ : Shows this device guest touches made)
    (notTooMany : made < 2147483647) (down : Bool) (slot : MultitouchSlot) {held : Nat}
    (found : device.find this slot.id = some held) :
    Shows this (device.sendSlot this down slot).2
      ((device.sendSlot this down slot).1.foldl Guest.receive guest) (touches.touch down slot)
      (made + 1) := by
  have consistent := shows_.consistent
  have few := shows_.few
  have counted := shows_.counted
  have isHeld := consistent.find_lt found
  rcases shows_.shown slot.id held found with ⟨contact, isContact, isNumber, showsContact⟩
  have apart : ∀ other number, other ≠ slot.id → device.find this other = some number →
      number ≠ held := by
    intro other number different foundOther same
    exact different (consistent.find_injective foundOther (same ▸ found))
  have before : ∀ number, device.find this slot.id = some number → number = held := by
    intro number isNumber
    rw [found] at isNumber
    exact (Option.some.inj isNumber).symm
  cases down with
  | true =>
      have changed := shows_.change notTooMany device slot.id (Int32.ofNat held) held touches.count
        ⟨Int32.ofNat contact.number, slot.x, slot.y⟩ (some { contact with x := slot.x, y := slot.y })
        consistent (by omega) (by omega) (Nat.le_refl _) shows_.tracking (by omega)
        (fun other _ => rfl) apart before
        (.inl ⟨{ contact with x := slot.x, y := slot.y }, found, rfl, isNumber, rfl⟩)
      have isTracking : (guest.slots (Int32.ofNat held)).trackingId =
          Int32.ofNat contact.number := congrArg GuestSlot.trackingId showsContact
      simpa [TouchDevice.sendSlot, hasSlot, TouchDevice.getOrAcquireSlot, found, Guest.change,
        Touches.touch, isContact, isTracking] using changed
  | false =>
      have released : releaseSlot this slot.id device =
          ⟨device.slotsBySourceAndId.filter fun entry => entry.1 ≠ (this, slot.id),
            device.activeSlots.set held false, device.trackingId⟩ := by
        simp only [TouchDevice.releaseSlot, found]
      have changed := shows_.change notTooMany (releaseSlot this slot.id device) slot.id
        (Int32.ofNat held) held touches.count
        { guest.slots (Int32.ofNat held) with trackingId := -1 } none consistent.releaseSlot
        (by rw [released, List.length_set]; omega) (by omega) (Nat.le_refl _)
        (by rw [released]; exact shows_.tracking) (by omega)
        (fun other different => by rw [released, find_erase, if_neg different]) apart before
        (.inr ⟨by rw [released, find_erase, if_pos rfl], rfl, rfl⟩)
      simpa [TouchDevice.sendSlot, hasSlot, TouchDevice.getOrAcquireSlot, found, Guest.change,
        Touches.touch] using changed

theorem Shows.sendSlot_of_new (shows_ : Shows this device guest touches made)
    (notTooMany : made < 2147483647) (down : Bool) (slot : MultitouchSlot)
    (found : device.find this slot.id = none) :
    Shows this (device.sendSlot this down slot).2
      ((device.sendSlot this down slot).1.foldl Guest.receive guest) (touches.touch down slot)
      (made + 1) := by
  have consistent := shows_.consistent
  have few := shows_.few
  have counted := shows_.counted
  have isFresh := useNewSlot_fresh device.activeSlots
  have isLess := useNewSlot_lt device.activeSlots
  have isLonger := length_useNewSlot device.activeSlots
  have acquired : getOrAcquireSlot this slot.id device =
      ((useNewSlot device.activeSlots).1,
        ⟨((this, slot.id), (useNewSlot device.activeSlots).1) :: device.slotsBySourceAndId,
          (useNewSlot device.activeSlots).2, device.trackingId⟩) := by
    simp only [TouchDevice.getOrAcquireSlot, found]
  have consistentNow : Consistent (getOrAcquireSlot this slot.id device).2 :=
    consistent.getOrAcquireSlot
  have apart : ∀ other number, other ≠ slot.id → device.find this other = some number →
      number ≠ (useNewSlot device.activeSlots).1 := by
    intro other number different foundOther same
    apply isFresh
    rw [← same, consistent.active]
    exact List.mem_map.mpr ⟨_, consistent.find_eq_some.mp foundOther, rfl⟩
  have before : ∀ number, device.find this slot.id = some number →
      number = (useNewSlot device.activeSlots).1 := by
    intro number isNumber
    rw [found] at isNumber
    cases isNumber
  rw [acquired] at consistentNow
  generalize (useNewSlot device.activeSlots).1 = held at *
  generalize (useNewSlot device.activeSlots).2 = active at *
  cases down with
  | true =>
      have next : device.trackingId + 1 = Int32.ofNat (touches.count + 1) := by
        rw [shows_.tracking, Int32.ofNat_add]
        rfl
      have changed := shows_.change notTooMany
        ⟨((this, slot.id), held) :: device.slotsBySourceAndId, active, device.trackingId + 1⟩ slot.id
        (Int32.ofNat held) held (touches.count + 1) ⟨device.trackingId + 1, slot.x, slot.y⟩
        (some ⟨touches.count + 1, slot.x, slot.y⟩)
        ⟨consistentNow.contacts, consistentNow.slots, consistentNow.active⟩
        (by simp only; omega) (Nat.add_le_add_right counted 1) (Nat.le_succ _) next (by omega)
        (fun other different => by rw [find_insert, if_neg different]) apart before
        (.inl ⟨⟨touches.count + 1, slot.x, slot.y⟩, by rw [find_insert, if_pos rfl], rfl,
          Nat.le_refl _, by rw [next]; rfl⟩)
      simpa [TouchDevice.sendSlot, hasSlot, acquired, found, Guest.change, Touches.touch,
        shows_.untouched slot.id found] using changed
  | false =>
      generalize isDown : (⟨((this, slot.id), held) :: device.slotsBySourceAndId, active,
        device.trackingId⟩ : TouchDevice Source) = pressed at *
      have isFound : ∀ other, pressed.find this other =
          if other = slot.id then some held else device.find this other := by
        intro other
        rw [← isDown, find_insert]
      have released : releaseSlot this slot.id pressed =
          ⟨pressed.slotsBySourceAndId.filter fun entry => entry.1 ≠ (this, slot.id),
            active.set held false, device.trackingId⟩ := by
        rw [TouchDevice.releaseSlot, isFound, if_pos rfl, ← isDown]
      have erased : ∀ other, (releaseSlot this slot.id pressed).find this other =
          if other = slot.id then none else device.find this other := by
        intro other
        rw [released, find_erase, isFound]
        split <;> rfl
      have changed := shows_.change notTooMany (releaseSlot this slot.id pressed) slot.id
        (Int32.ofNat held) held touches.count
        { guest.slots (Int32.ofNat held) with trackingId := -1 } none consistentNow.releaseSlot
        (by rw [released, List.length_set]; omega) (by omega) (Nat.le_refl _)
        (by rw [released]; exact shows_.tracking) (by omega)
        (fun other different => by rw [erased, if_neg different]) apart before
        (.inr ⟨by rw [erased, if_pos rfl], rfl, rfl⟩)
      simpa [TouchDevice.sendSlot, hasSlot, acquired, found, Guest.change, Touches.touch]
        using changed

theorem Shows.sendSlot (shows_ : Shows this device guest touches made) (notTooMany : made < 2147483647)
    (down : Bool) (slot : MultitouchSlot) :
    Shows this (device.sendSlot this down slot).2
      ((device.sendSlot this down slot).1.foldl Guest.receive guest) (touches.touch down slot)
      (made + 1) := by
  cases found : device.find this slot.id with
  | some held => exact shows_.sendSlot_of_found notTooMany down slot found
  | none => exact shows_.sendSlot_of_new notTooMany down slot found

end

end Cuttlefish.InputConnector
