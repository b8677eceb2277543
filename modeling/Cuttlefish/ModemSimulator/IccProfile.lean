import Cuttlefish.Foundation.Xml
import Cuttlefish.ModemSimulator.SimService

/-! # The ICC profile

Where `SimService` keeps its PIN state: loading it from the profile document and
saving it back. Saving and loading the file itself is the XML library's part;
the document read back is the one that was saved. -/

namespace Cuttlefish.ModemSimulator

open Xml

def defaultPinCode : Text := "1234".toList
def defaultPukCode : Text := "12345678".toList

def cStr (text : Text) : Text := text.takeWhile (· != '\x00')

namespace SimService

variable {Element : Type} (api : Api Element)

/-! ## Loading -/

/-- A code of the profile; `none` when the element has no text, from which no
string can be made. -/
def loadCode (profile : Element) (name : String) (default : Text) : Option Text :=
  match childText api profile name with
  | none => some default
  | some text => text

def loadTimes (profile : Element) (name : String) (default : Int) : Option Int :=
  match childText api profile name with
  | none => some default
  | some none => none
  | some (some text) => Decimal.stoi text

def loadStatus (profile : Element) : Option SimStatus :=
  match childText api profile "PINSTATE" with
  | none => some .ready
  | some none => none
  | some (some text) =>
      if text = "PINSTATE_ENABLED_NOT_VERIFIED".toList then some .pin
      else if text = "PINSTATE_ENABLED_BLOCKED".toList then some .puk
      else some .ready

def defaultPinStatus : PinStatus where
  pin := defaultPinCode
  puk := defaultPukCode
  pinRemainingTimes := simPinMaxRetryTimes
  pukRemainingTimes := simPukMaxRetryTimes

/-- `InitializeSimFileSystemAndSimState` on the root element of the document it
loaded; `none` when the profile is not accepted. -/
def initializeSimState (service : SimService) : Option Element → Option SimService
  | none => some { service with simStatus := .absent }
  | some root =>
      match api.firstChildElement root "PinProfile" with
      | none =>
          some { service with
            simStatus := .ready, pin1Status := defaultPinStatus, pin2Status := defaultPinStatus }
      | some profile => do
          let simStatus ← loadStatus api profile
          let pin ← loadCode api profile "PINCODE" defaultPinCode
          let puk ← loadCode api profile "PUKCODE" defaultPukCode
          let pinRemainingTimes ← loadTimes api profile "PINREMAINTIMES" simPinMaxRetryTimes
          let pukRemainingTimes ← loadTimes api profile "PUKREMAINTIMES" simPukMaxRetryTimes
          let pin2 ← loadCode api profile "PIN2CODE" defaultPinCode
          let puk2 ← loadCode api profile "PUK2CODE" defaultPukCode
          let pin2RemainingTimes ← loadTimes api profile "PIN2REMAINTIMES" simPinMaxRetryTimes
          let puk2RemainingTimes ← loadTimes api profile "PUK2REMAINTIMES" simPukMaxRetryTimes
          return { service with
            simStatus
            pin1Status := ⟨pin, puk, pinRemainingTimes, pukRemainingTimes⟩
            pin2Status := ⟨pin2, puk2, pin2RemainingTimes, puk2RemainingTimes⟩ }

/-! ## Saving -/

def pinState (service : SimService) : Text :=
  if service.simStatus = .puk then "PINSTATE_ENABLED_BLOCKED".toList
  else if service.facilityLock.lookup "SC".toList = some .enable then
    "PINSTATE_ENABLED_NOT_VERIFIED".toList
  else "PINSTATE_UNKNOWN".toList

/-- The elements written to the profile: the name that is looked up, the name of
the element that is appended when it is missing, and the text. -/
def savedElements (service : SimService) : List (String × String × Text) :=
  [("PINSTATE", "PINSTATE", service.pinState),
    ("PINCODE", "PINCODE", service.pin1Status.pin),
    ("PUKCODE", "PUKCODE", service.pin1Status.puk),
    ("PINREMAINTIMES", "PINREMAINTIMES", Decimal.print service.pin1Status.pinRemainingTimes),
    ("PUKREMAINTIMES", "PUKREMAINTIMES", Decimal.print service.pin1Status.pukRemainingTimes),
    ("PIN2CODE", "PIN2CODE", service.pin2Status.pin),
    ("PUK2CODE", "PUK2CODE", service.pin2Status.puk),
    ("PIN2REMAINTIMES", "PINREMAINTIMES", Decimal.print service.pin2Status.pinRemainingTimes),
    ("PUK2REMAINTIMES", "PUK2REMAINTIMES", Decimal.print service.pin2Status.pukRemainingTimes)]

def saveProfile (service : SimService) (profile : Element) : Element :=
  service.savedElements.foldl
    (fun profile (name, newName, text) =>
      writeChildText api profile name newName (cStr text)) profile

/-- `SavePinStateToIccProfile`: the root element of the saved document. -/
def savePinStateToIccProfile (service : SimService) (root : Element) : Element :=
  match api.firstChildElement root "PinProfile" with
  | none =>
      api.insertEndChild root (service.saveProfile api (api.newElement "PinProfile"))
  | some profile => api.replaceFirstChild root "PinProfile" (service.saveProfile api profile)

/-! ## Saving and loading -/

/-- The codes and counters are the ones in memory when the saved document is
loaded again, whatever the state before loading is. -/
def Restores (service previous : SimService) (root : Element) : Prop :=
  ∃ reloaded, previous.initializeSimState api
      (some (service.savePinStateToIccProfile api root)) = some reloaded ∧
    reloaded.pin1Status = service.pin1Status ∧ reloaded.pin2Status = service.pin2Status

/-- No code contains a NUL. -/
structure NulFree (service : SimService) : Prop where
  pin : '\x00' ∉ service.pin1Status.pin
  puk : '\x00' ∉ service.pin1Status.puk
  pin2 : '\x00' ∉ service.pin2Status.pin
  puk2 : '\x00' ∉ service.pin2Status.puk

structure TimesFit (service : SimService) : Prop where
  pin : Decimal.FitsInt service.pin1Status.pinRemainingTimes
  puk : Decimal.FitsInt service.pin1Status.pukRemainingTimes
  pin2 : Decimal.FitsInt service.pin2Status.pinRemainingTimes
  puk2 : Decimal.FitsInt service.pin2Status.pukRemainingTimes

/-- The PIN profile of the document has an element with the given name. -/
def HasPinElement (root : Element) (name : String) : Prop :=
  ∃ profile, api.firstChildElement root "PinProfile" = some profile ∧
    (childText api profile name).isSome = true

theorem cStr_eq_self_iff (text : Text) : cStr text = text ↔ '\x00' ∉ text := by
  rw [cStr]
  induction text with
  | nil => simp
  | cons first rest induction =>
      by_cases nul : first = '\x00'
      · simp [nul]
      · have kept : (first :: rest).takeWhile (· != '\x00') =
            first :: rest.takeWhile (· != '\x00') := by simp [nul]
        rw [kept, List.cons.injEq, induction]
        simp [Ne.symm nul]

private theorem stoi_cStr_print {value : Int} (fits : Decimal.FitsInt value) :
    Decimal.stoi (cStr (Decimal.print value)) = some value := by
  have whole : cStr (Decimal.print value) = Decimal.print value :=
    (cStr_eq_self_iff _).mpr fun nul => Decimal.print_ne_nul nul rfl
  rw [whole, Decimal.stoi_print fits]

variable {api} {service previous : SimService}

private theorem loadCode_of_text {profile : Element} {name : String} {text default : Text}
    (written : childText api profile name = some (some text)) :
    loadCode api profile name default = some text := by
  rw [loadCode, written]

private theorem loadTimes_of_text {profile : Element} {name : String} {value default : Int}
    (written : childText api profile name = some (some (cStr (Decimal.print value))))
    (fits : Decimal.FitsInt value) : loadTimes api profile name default = some value := by
  rw [loadTimes, written]
  exact stoi_cStr_print fits

private theorem name_saveProfile (lawful : api.Lawful) (profile : Element) :
    api.name (service.saveProfile api profile) = api.name profile := by
  simp only [saveProfile, savedElements, List.foldl_cons, List.foldl_nil,
    name_writeChildText lawful]

structure Saved (api : Api Element) (service : SimService) (before after : Element) :
    Prop where
  state : childText api after "PINSTATE" = some (some (cStr service.pinState))
  pin : childText api after "PINCODE" = some (some (cStr service.pin1Status.pin))
  puk : childText api after "PUKCODE" = some (some (cStr service.pin1Status.puk))
  pinTimes : childText api after "PINREMAINTIMES" =
    some (some (cStr (Decimal.print service.pin1Status.pinRemainingTimes)))
  pukTimes : childText api after "PUKREMAINTIMES" =
    some (some (cStr (Decimal.print service.pin1Status.pukRemainingTimes)))
  pin2 : childText api after "PIN2CODE" = some (some (cStr service.pin2Status.pin))
  puk2 : childText api after "PUK2CODE" = some (some (cStr service.pin2Status.puk))
  pin2Times : childText api after "PIN2REMAINTIMES" =
    if (childText api before "PIN2REMAINTIMES").isSome = true then
      some (some (cStr (Decimal.print service.pin2Status.pinRemainingTimes)))
    else none
  puk2Times : childText api after "PUK2REMAINTIMES" =
    some (some (cStr (Decimal.print service.pin2Status.pukRemainingTimes)))

private theorem saved_saveProfile (lawful : api.Lawful) (profile : Element) :
    Saved api service profile (service.saveProfile api profile) := by
  simp only [saveProfile, savedElements, List.foldl_cons, List.foldl_nil]
  constructor
  · simp (disch := decide) only [childText_writeChildText_of_ne lawful,
      childText_writeChildText_self lawful]
  · simp (disch := decide) only [childText_writeChildText_of_ne lawful,
      childText_writeChildText_self lawful]
  · simp (disch := decide) only [childText_writeChildText_of_ne lawful,
      childText_writeChildText_self lawful]
  · rw [childText_writeChildText_of_ne lawful _ (by decide) (by decide)]
    refine childText_writeChildText_of_present lawful _ (by decide) ?_ _
    simp (disch := decide) only [childText_writeChildText_of_ne lawful,
      childText_writeChildText_self lawful]
  · simp (disch := decide) only [childText_writeChildText_of_ne lawful,
      childText_writeChildText_self lawful]
  · simp (disch := decide) only [childText_writeChildText_of_ne lawful,
      childText_writeChildText_self lawful]
  · simp (disch := decide) only [childText_writeChildText_of_ne lawful,
      childText_writeChildText_self lawful]
  · rw [childText_writeChildText_of_ne lawful _ (by decide) (by decide),
      childText_writeChildText lawful]
    simp (disch := decide) only [childText_writeChildText_of_ne lawful]
    cases childText api profile "PIN2REMAINTIMES" with
    | none => simp
    | some text => simp
  · simp (disch := decide) only [childText_writeChildText_self lawful]

private theorem firstChildElement_save (lawful : api.Lawful) (root : Element) :
    ∃ before, api.firstChildElement (service.savePinStateToIccProfile api root) "PinProfile" =
        some (service.saveProfile api before) ∧
      ((childText api before "PIN2REMAINTIMES").isSome = true ↔
        HasPinElement api root "PIN2REMAINTIMES") := by
  rw [savePinStateToIccProfile, HasPinElement]
  cases found : api.firstChildElement root "PinProfile" with
  | none =>
      refine ⟨api.newElement "PinProfile", ?_, ?_⟩
      · simp [lawful.firstChildElement_insertEndChild, found, name_saveProfile lawful,
          lawful.name_newElement]
      · simp [childText, lawful.firstChildElement_newElement]
  | some profile =>
      have name : api.name (service.saveProfile api profile) = "PinProfile" := by
        rw [name_saveProfile lawful]
        exact lawful.name_firstChildElement root "PinProfile" profile found
      refine ⟨profile, ?_, by simp⟩
      simp only
      rw [lawful.firstChildElement_replaceFirstChild root "PinProfile" _ _ name
        (by simp [found])]
      simp

/-- Loading a saved profile yields the codes up to their first NUL, and the
counters, except that the counter of PIN2 is the default where the profile had no
element for it. -/
private theorem initialize_saved (fits : service.TimesFit) {root before after : Element}
    (profile : api.firstChildElement root "PinProfile" = some after)
    (saved : Saved api service before after) :
    ∃ status, previous.initializeSimState api (some root) =
      some { previous with
        simStatus := status
        pin1Status := ⟨cStr service.pin1Status.pin, cStr service.pin1Status.puk,
          service.pin1Status.pinRemainingTimes, service.pin1Status.pukRemainingTimes⟩
        pin2Status := ⟨cStr service.pin2Status.pin, cStr service.pin2Status.puk,
          if (childText api before "PIN2REMAINTIMES").isSome = true then
            service.pin2Status.pinRemainingTimes
          else simPinMaxRetryTimes,
          service.pin2Status.pukRemainingTimes⟩ } := by
  have status : ∃ status, loadStatus api after = some status := by
    simp only [loadStatus, saved.state]
    split
    · exact ⟨_, rfl⟩
    · split
      · exact ⟨_, rfl⟩
      · exact ⟨_, rfl⟩
  rcases status with ⟨status, loaded⟩
  have pin2Times : loadTimes api after "PIN2REMAINTIMES" simPinMaxRetryTimes =
      some (if (childText api before "PIN2REMAINTIMES").isSome = true then
        service.pin2Status.pinRemainingTimes else simPinMaxRetryTimes) := by
    have written := saved.pin2Times
    by_cases present : (childText api before "PIN2REMAINTIMES").isSome = true
    · rw [if_pos present] at written ⊢
      exact loadTimes_of_text written fits.pin2
    · rw [if_neg present] at written ⊢
      rw [loadTimes, written]
  refine ⟨status, ?_⟩
  simp only [initializeSimState, profile, loaded, loadCode_of_text saved.pin,
    loadCode_of_text saved.puk, loadTimes_of_text saved.pinTimes fits.pin,
    loadTimes_of_text saved.pukTimes fits.puk, loadCode_of_text saved.pin2,
    loadCode_of_text saved.puk2, pin2Times, loadTimes_of_text saved.puk2Times fits.puk2,
    Option.bind_eq_bind, Option.bind_some, Option.pure_def]

/-- Saving and loading restores all codes and counters exactly if the profile
has an element for the tries of PIN2 or all of them are left, the codes being
free of NULs. -/
theorem save_restores_iff (lawful : api.Lawful) (fits : service.TimesFit) (root : Element) :
    Restores api service previous root ↔
      service.NulFree ∧ (HasPinElement api root "PIN2REMAINTIMES" ∨
        service.pin2Status.pinRemainingTimes = simPinMaxRetryTimes) := by
  rcases @firstChildElement_save _ api service lawful root with ⟨before, profile, present⟩
  have saved : Saved api service before (service.saveProfile api before) :=
    saved_saveProfile lawful before
  rcases @initialize_saved _ api service previous fits _ _ _ profile saved with
    ⟨status, reloaded⟩
  rw [Restores, reloaded, ← present]
  simp only [Option.some.injEq, exists_eq_left']
  rcases service with ⟨_, ⟨pin, puk, pinTimes, pukTimes⟩, ⟨pin2, puk2, pin2Times, puk2Times⟩, _⟩
  simp only [PinStatus.mk.injEq, cStr_eq_self_iff, and_true]
  constructor
  · intro parts
    rcases parts with ⟨⟨pinFree, pukFree⟩, pin2Free, puk2Free, times⟩
    refine ⟨⟨pinFree, pukFree, pin2Free, puk2Free⟩, ?_⟩
    by_cases isPresent : (childText api before "PIN2REMAINTIMES").isSome = true
    · exact .inl isPresent
    · exact .inr (by simpa [isPresent] using times.symm)
  · intro parts
    rcases parts with ⟨⟨pinFree, pukFree, pin2Free, puk2Free⟩, condition⟩
    refine ⟨⟨pinFree, pukFree⟩, pin2Free, puk2Free, ?_⟩
    rcases condition with isPresent | default
    · simp [isPresent]
    · simp [default]

def sampleProfile : Tree :=
  .mk "IccProfile" [.inr (.mk "PinProfile" [.inr (.mk "PINCODE" [.inl "1234".toList])])]

theorem save_restores_iff_default_times :
    (sampleService.initializeSimState Tree.api (some sampleProfile)).isSome = true ∧
      Restores Tree.api sampleService sampleService sampleProfile := by
  have fits : sampleService.TimesFit := ⟨by decide, by decide, by decide, by decide⟩
  have free : sampleService.NulFree := ⟨by decide, by decide, by decide, by decide⟩
  exact ⟨rfl, (save_restores_iff Tree.api_lawful fits sampleProfile).mpr
    ⟨free, .inr rfl⟩⟩

/-- The sample SIM after two wrong entries of PIN2. -/
def sampleServiceOneTry : SimService :=
  { sampleService with pin2Status := { sampleService.pin2Status with pinRemainingTimes := 1 } }

/-- With one try left for PIN2, the profile gets a second element for PIN1
instead, and loading it makes three tries of the one. -/
theorem pin2_times_not_restored :
    (sampleService.initializeSimState Tree.api (some sampleProfile)).isSome = true ∧
      (sampleService.initializeSimState Tree.api (some
          (sampleServiceOneTry.savePinStateToIccProfile Tree.api sampleProfile))).map
        (fun reloaded => reloaded.pin2Status.pinRemainingTimes) = some 3 ∧
      ¬ Restores Tree.api sampleServiceOneTry sampleService sampleProfile := by
  have reset : (sampleService.initializeSimState Tree.api (some
      (sampleServiceOneTry.savePinStateToIccProfile Tree.api sampleProfile))).map
        (fun reloaded => reloaded.pin2Status.pinRemainingTimes) = some 3 := rfl
  refine ⟨rfl, reset, ?_⟩
  intro parts
  rcases parts with ⟨reloaded, loaded, -, pin2⟩
  rw [loaded, Option.map_some, pin2] at reset
  exact absurd reset (by decide)

end SimService

end Cuttlefish.ModemSimulator
