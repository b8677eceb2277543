import Cuttlefish.ModemSimulator.PinStatus

/-! # SIM service

The PIN handling of `SimService`: the commands `AT+CPIN`, `AT+CLCK` and
`AT+CPWD` with the state they share. The notification of the network service is
left out, it does not act back on the SIM. -/

namespace Cuttlefish.ModemSimulator

/-! ## Final result codes

`ModemService`. -/

def cmeErrorOperationNotAllowed : String := "+CME ERROR: 3"
def cmeErrorOperationNotSupported : String := "+CME ERROR: 4"
def cmeErrorSimNotInserted : String := "+CME ERROR: 10"
def cmeErrorSimBusy : String := "+CME ERROR: 14"
def cmeErrorIncorrectPassword : String := "+CME ERROR: 16"
def cmeErrorInCorrectParameters : String := "+CME ERROR: 50"

inductive SimStatus
  | absent
  | notReady
  | ready
  | pin
  | puk
  deriving DecidableEq, Repr

inductive LockStatus
  | disable
  | enable
  deriving DecidableEq, Repr

def LockStatus.print : LockStatus → String
  | disable => "0"
  | enable => "1"

inductive LockMode
  | unlock
  | lock
  | query
  deriving DecidableEq, Repr

def LockMode.ofInt (mode : Int) : Option LockMode :=
  if mode = 0 then some unlock
  else if mode = 1 then some lock
  else if mode = 2 then some query
  else none

structure SimService where
  simStatus : SimStatus
  pin1Status : PinStatus
  pin2Status : PinStatus
  facilityLock : List (Text × LockStatus)
  deriving DecidableEq, Repr

namespace SimService

def checkPin1AndAdjustSimStatus (service : SimService) (pin : Text) : Bool × SimService :=
  match service.pin1Status.verifyPIN pin with
  | (true, pin1Status) => (true, { service with pin1Status, simStatus := .ready })
  | (false, pin1Status) =>
      if pin1Status.pinRemainingTimes ≤ 0 then
        (false, { service with pin1Status, simStatus := .puk })
      else (false, { service with pin1Status })

def changePin1AndAdjustSimStatus (service : SimService) (mode : ChangeMode)
    (pin newPin : Text) : Bool × SimService :=
  match service.pin1Status.changePIN mode pin newPin with
  | (true, pin1Status) => (true, { service with pin1Status, simStatus := .ready })
  | (false, pin1Status) =>
      if service.simStatus = .ready ∧ pin1Status.pinRemainingTimes ≤ 0 then
        (false, { service with pin1Status, simStatus := .pin })
      else if service.simStatus = .pin ∧ pin1Status.pukRemainingTimes ≤ 0 then
        (false, { service with pin1Status, simStatus := .absent })
      else (false, { service with pin1Status })

def passwordResponse (accepted : Bool) : String :=
  if accepted then "OK" else cmeErrorIncorrectPassword

open CommandParser in
/-- `AT+CPIN=`. -/
def handleChangeOrEnterPIN (service : SimService) (command : Text) :
    SimService × List String :=
  let cmd := skipPrefix command
  match service.simStatus with
  | .absent => (service, [cmeErrorSimNotInserted])
  | .notReady => (service, [cmeErrorSimBusy])
  | .ready =>
      if cmd.contains ',' then
        let (pin, newPin) := getNextStrUntil ',' cmd
        let (accepted, service) := service.changePin1AndAdjustSimStatus .withPin pin newPin
        (service, [passwordResponse accepted])
      else
        let (accepted, pin2Status) := service.pin2Status.verifyPIN cmd
        ({ service with pin2Status }, [passwordResponse accepted])
  | .pin =>
      let (accepted, service) := service.checkPin1AndAdjustSimStatus cmd
      (service, [passwordResponse accepted])
  | .puk =>
      if cmd.contains ',' then
        let (puk, newPin) := getNextStrUntil ',' cmd
        let (accepted, service) := service.changePin1AndAdjustSimStatus .withPuk puk newPin
        (service, [passwordResponse accepted])
      else (service, [cmeErrorOperationNotAllowed])

def setFacilityLock (service : SimService) (lock : Text) (status : LockStatus) :
    SimService :=
  { service with facilityLock := service.facilityLock.map fun entry =>
      if entry.1 = lock then (lock, status) else entry }

def changeFacilityLock (service : SimService) (lock password : Text) (status : LockStatus) :
    SimService × List String :=
  if lock = "SC".toList then
    let (accepted, service) := service.checkPin1AndAdjustSimStatus password
    (if accepted then service.setFacilityLock lock status else service,
      [passwordResponse accepted])
  else if lock = "FD".toList then
    let (accepted, pin2Status) := service.pin2Status.verifyPIN password
    let service := { service with pin2Status }
    (if accepted then service.setFacilityLock lock status else service,
      [passwordResponse accepted])
  else (service.setFacilityLock lock status, ["OK"])

open CommandParser in
/-- `AT+CLCK=`. -/
def handleFacilityLock (service : SimService) (command : Text) : SimService × List String :=
  let (lock, cmd) := getNextStr command
  let (mode, cmd) := getNextInt cmd
  let (password, _) := getNextStr cmd
  match service.facilityLock.lookup lock with
  | none => (service, [cmeErrorOperationNotSupported])
  | some status =>
      match LockMode.ofInt mode with
      | some .query => (service, ["+CLCK: " ++ status.print, "OK"])
      | some .lock => service.changeFacilityLock lock password .enable
      | some .unlock => service.changeFacilityLock lock password .disable
      | none => (service, [cmeErrorInCorrectParameters])

open CommandParser in
/-- `AT+CPWD=`. -/
def handleChangePassword (service : SimService) (command : Text) :
    SimService × List String :=
  let cmd := skipPrefix command
  let (lock, cmd) := getNextStr cmd
  let (oldPassword, cmd) := getNextStr cmd
  let (newPassword, _) := getNextStr cmd
  if lock = "SC".toList then
    let (accepted, service) :=
      service.changePin1AndAdjustSimStatus .withPin oldPassword newPassword
    (service, [passwordResponse accepted])
  else if lock = "P2".toList ∨ lock = "FD".toList then
    let (accepted, pin2Status) := service.pin2Status.changePIN .withPin oldPassword newPassword
    ({ service with pin2Status }, [passwordResponse accepted])
  else (service, [cmeErrorOperationNotSupported])

/-! ## Commands -/

/-- A PIN command with its text. -/
inductive Command
  | cpin (command : Text)
  | clck (command : Text)
  | cpwd (command : Text)
  deriving DecidableEq, Repr

def handle (service : SimService) : Command → SimService × List String
  | .cpin command => service.handleChangeOrEnterPIN command
  | .clck command => service.handleFacilityLock command
  | .cpwd command => service.handleChangePassword command

def step (service : SimService) (command : Command) : Option SimService :=
  some (service.handle command).1

/-- A SIM with its PIN lock enabled, for runs on concrete commands. -/
def sampleService : SimService where
  simStatus := .ready
  pin1Status := ⟨"1234".toList, "12345678".toList, 3, 10⟩
  pin2Status := ⟨"5678".toList, "87654321".toList, 3, 10⟩
  facilityLock := [("FD".toList, .disable), ("SC".toList, .enable)]

/-! ## What a command does to PIN1 -/

/-- The use a command makes of PIN1 and its PUK. -/
inductive Attempt
  | none
  | verify (pin : Text)
  | change (mode : ChangeMode) (pinOrPuk newPin : Text)
  deriving DecidableEq, Repr

def facilityAttempt (lock password : Text) : Attempt :=
  if lock = "SC".toList then .verify password else .none

open CommandParser in
/-- The attempt that a command amounts to in the given state. -/
def attempt (service : SimService) : Command → Attempt
  | .cpin command =>
      let cmd := skipPrefix command
      match service.simStatus with
      | .ready =>
          if cmd.contains ',' then
            .change .withPin (getNextStrUntil ',' cmd).1 (getNextStrUntil ',' cmd).2
          else .none
      | .pin => .verify cmd
      | .puk =>
          if cmd.contains ',' then
            .change .withPuk (getNextStrUntil ',' cmd).1 (getNextStrUntil ',' cmd).2
          else .none
      | _ => .none
  | .clck command =>
      let (lock, cmd) := getNextStr command
      let (mode, cmd) := getNextInt cmd
      match service.facilityLock.lookup lock, LockMode.ofInt mode with
      | some _, some .lock => facilityAttempt lock (getNextStr cmd).1
      | some _, some .unlock => facilityAttempt lock (getNextStr cmd).1
      | _, _ => .none
  | .cpwd command =>
      let (lock, cmd) := getNextStr (skipPrefix command)
      if lock = "SC".toList then
        .change .withPin (getNextStr cmd).1 (getNextStr (getNextStr cmd).2).1
      else .none

structure Lock where
  status : SimStatus
  pin1 : PinStatus
  deriving DecidableEq, Repr

def lock (service : SimService) : Lock := ⟨service.simStatus, service.pin1Status⟩

def Attempt.apply (lock : Lock) : Attempt → Bool × Lock
  | .none => (false, lock)
  | .verify pin =>
      match lock.pin1.verifyPIN pin with
      | (true, pin1) => (true, ⟨.ready, pin1⟩)
      | (false, pin1) =>
          (false, ⟨if pin1.pinRemainingTimes ≤ 0 then .puk else lock.status, pin1⟩)
  | .change mode pinOrPuk newPin =>
      match lock.pin1.changePIN mode pinOrPuk newPin with
      | (true, pin1) => (true, ⟨.ready, pin1⟩)
      | (false, pin1) =>
          (false, ⟨if lock.status = .ready ∧ pin1.pinRemainingTimes ≤ 0 then .pin
            else if lock.status = .pin ∧ pin1.pukRemainingTimes ≤ 0 then .absent
            else lock.status, pin1⟩)

private theorem checkPin1_lock (service : SimService) (pin : Text) :
    (service.checkPin1AndAdjustSimStatus pin).1 = ((Attempt.verify pin).apply service.lock).1 ∧
      (service.checkPin1AndAdjustSimStatus pin).2.lock =
        ((Attempt.verify pin).apply service.lock).2 := by
  rw [checkPin1AndAdjustSimStatus, Attempt.apply]
  simp only [lock]
  rcases service.pin1Status.verifyPIN pin with ⟨accepted, pin1⟩
  cases accepted with
  | true => exact ⟨rfl, rfl⟩
  | false =>
      by_cases exhausted : pin1.pinRemainingTimes ≤ 0
      · simp [exhausted]
      · simp [exhausted]

private theorem changePin1_lock (service : SimService) (mode : ChangeMode)
    (pin newPin : Text) :
    (service.changePin1AndAdjustSimStatus mode pin newPin).1 =
        ((Attempt.change mode pin newPin).apply service.lock).1 ∧
      (service.changePin1AndAdjustSimStatus mode pin newPin).2.lock =
        ((Attempt.change mode pin newPin).apply service.lock).2 := by
  rw [changePin1AndAdjustSimStatus, Attempt.apply]
  simp only [lock]
  rcases service.pin1Status.changePIN mode pin newPin with ⟨accepted, pin1⟩
  cases accepted with
  | true => exact ⟨rfl, rfl⟩
  | false =>
      by_cases exhausted : service.simStatus = .ready ∧ pin1.pinRemainingTimes ≤ 0
      · simp [exhausted]
      · by_cases blocked : service.simStatus = .pin ∧ pin1.pukRemainingTimes ≤ 0
        · simp [blocked]
        · simp [exhausted, blocked]

private theorem changeFacilityLock_attempt (service : SimService) (name password : Text)
    (status : LockStatus) :
    (service.changeFacilityLock name password status).1.lock =
        ((facilityAttempt name password).apply service.lock).2 ∧
      (facilityAttempt name password ≠ .none →
        (service.changeFacilityLock name password status).2 =
          [passwordResponse ((facilityAttempt name password).apply service.lock).1]) := by
  rw [changeFacilityLock, facilityAttempt]
  by_cases isSC : name = "SC".toList
  · rcases checkPin1_lock service password with ⟨accepted, locks⟩
    rw [if_pos isSC, if_pos isSC, ← accepted, ← locks]
    dsimp only
    refine ⟨?_, fun _ => rfl⟩
    split <;> rfl
  · rw [if_neg isSC, if_neg isSC]
    refine ⟨?_, fun some_ => absurd rfl some_⟩
    by_cases isFD : name = "FD".toList
    · rw [if_pos isFD]
      dsimp only
      split <;> rfl
    · rw [if_neg isFD]
      rfl

theorem handle_attempt (service : SimService) (command : Command) :
    (service.handle command).1.lock = ((service.attempt command).apply service.lock).2 ∧
      (service.attempt command ≠ .none → (service.handle command).2 =
        [passwordResponse ((service.attempt command).apply service.lock).1]) := by
  cases command with
  | cpin command =>
      simp only [handle, attempt, handleChangeOrEnterPIN]
      cases status : service.simStatus with
      | absent => exact ⟨rfl, fun some_ => absurd rfl some_⟩
      | notReady => exact ⟨rfl, fun some_ => absurd rfl some_⟩
      | ready =>
          simp only
          split
          · rcases changePin1_lock service .withPin
              (CommandParser.getNextStrUntil ',' (CommandParser.skipPrefix command)).1
              (CommandParser.getNextStrUntil ',' (CommandParser.skipPrefix command)).2
              with ⟨accepted, locks⟩
            exact ⟨locks, fun _ => by rw [accepted]⟩
          · exact ⟨by rw [← status]; rfl, fun some_ => absurd rfl some_⟩
      | pin =>
          rcases checkPin1_lock service (CommandParser.skipPrefix command)
            with ⟨accepted, locks⟩
          exact ⟨locks, fun _ => by rw [accepted]⟩
      | puk =>
          simp only
          split
          · rcases changePin1_lock service .withPuk
              (CommandParser.getNextStrUntil ',' (CommandParser.skipPrefix command)).1
              (CommandParser.getNextStrUntil ',' (CommandParser.skipPrefix command)).2
              with ⟨accepted, locks⟩
            exact ⟨locks, fun _ => by rw [accepted]⟩
          · exact ⟨rfl, fun some_ => absurd rfl some_⟩
  | clck command =>
      simp only [handle, attempt, handleFacilityLock]
      generalize CommandParser.getNextStr command = parsed
      rcases parsed with ⟨name, cmd⟩
      generalize CommandParser.getNextInt cmd = parsedMode
      rcases parsedMode with ⟨mode, rest⟩
      cases service.facilityLock.lookup name with
      | none => exact ⟨rfl, fun some_ => absurd rfl some_⟩
      | some current =>
          cases LockMode.ofInt mode with
          | none => exact ⟨rfl, fun some_ => absurd rfl some_⟩
          | some mode =>
              cases mode with
              | query => exact ⟨rfl, fun some_ => absurd rfl some_⟩
              | lock => exact changeFacilityLock_attempt service name _ .enable
              | unlock => exact changeFacilityLock_attempt service name _ .disable
  | cpwd command =>
      simp only [handle, attempt, handleChangePassword]
      generalize CommandParser.getNextStr (CommandParser.skipPrefix command) = parsed
      rcases parsed with ⟨name, cmd⟩
      by_cases isSC : name = "SC".toList
      · simp only [isSC, if_true]
        rcases changePin1_lock service .withPin (CommandParser.getNextStr cmd).1
          (CommandParser.getNextStr (CommandParser.getNextStr cmd).2).1 with ⟨accepted, locks⟩
        exact ⟨locks, fun _ => by rw [accepted]⟩
      · simp only [isSC, if_false]
        refine ⟨?_, fun some_ => absurd rfl some_⟩
        split <;> rfl

end SimService

end Cuttlefish.ModemSimulator
