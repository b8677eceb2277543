import Cuttlefish.ModemSimulator.SmsService

/-! # Responses of the other services

What the handlers of `NetworkService`, `DataService` and `SupService` answer, and
two of `SimService`. Their own state is not modelled, and of a response of several
lines it is the last one that stands here, the result code. -/

namespace Cuttlefish.ModemSimulator

open CommandParser

/-- What the network and data services answer from: whether there is a network,
the operators and the current one, and the active PDP contexts. -/
structure NetworkState where
  isHasNetwork : Bool
  operatorList : List Text
  currentOperatorNumeric : Text
  activeContexts : List Int
  deriving DecidableEq, Repr

namespace SimService

def handleSIMStatusReq (service : SimService) : List String :=
  match service.simStatus with
  | .absent => [cmeErrorSimNotInserted, "OK"]
  | .notReady => [cmeErrorSimBusy, "OK"]
  | .ready => ["+CPIN: READY", "OK"]
  | .pin => ["+CPIN: SIM PIN", "OK"]
  | .puk => ["+CPIN: SIM PUK", "OK"]

/-- `AT+CPINR=`. -/
def handleQueryRemainTimes (service : SimService) (command : Text) : List String :=
  let lockType := (getNextStr (skipPrefix command)).1
  let answer := fun remaining maximum : Int =>
    ["+CPINR: " ++ String.ofList (lockType ++ ',' :: Decimal.print remaining ++
      ',' :: Decimal.print maximum), "OK"]
  if lockType = "SIM PIN".toList then
    answer service.pin1Status.pinRemainingTimes simPinMaxRetryTimes
  else if lockType = "SIM PUK".toList then
    answer service.pin1Status.pukRemainingTimes simPukMaxRetryTimes
  else if lockType = "SIM PIN2".toList then
    answer service.pin2Status.pinRemainingTimes simPinMaxRetryTimes
  else if lockType = "SIM PUK2".toList then
    answer service.pin2Status.pukRemainingTimes simPukMaxRetryTimes
  else [cmeErrorInCorrectParameters]

end SimService

namespace NetworkService

/-- `AT+CFUN=`. -/
def handleRadioPower (command : Text) : String :=
  if (getNextInt (skipPrefix command)).1 ∈ [0, 1] then "OK" else cmeErrorOperationNotSupported

def handleRequestOperator (network : NetworkState) : String :=
  if network.isHasNetwork = false then cmeErrorOperationNotAllowed
  else if network.currentOperatorNumeric ∈ network.operatorList then "OK"
  else cmeErrorNoNetworkService

/-- `AT+COPS=`. -/
def handleSetNetworkSelectionMode (network : NetworkState) (command : Text) : String :=
  let (mode, cmd) := getNextInt (skipPrefix command)
  if mode = 1 then
    if (getNextStr (skipPrefix cmd)).1 ∈ network.operatorList then "OK"
    else cmeErrorNoNetworkService
  else if mode ∈ [0, 2, 4] then "OK"
  else cmeErrorInCorrectParameters

def handleRegistration (queries : List String) (command : Text) : String :=
  let cmd := skipPrefix command
  if cmd ∈ queries.map String.toList ∨ (getNextInt cmd).1 ∈ [0, 1, 2] then "OK"
  else cmeErrorInCorrectParameters

def handleVoiceNetworkRegistration : Text → String := handleRegistration ["AT+CREG?"]

def handleDataNetworkRegistration : Text → String :=
  handleRegistration ["AT+CGREG?", "AT+CEREG?"]

end NetworkService

namespace DataService

/-- `AT+CGDATA`. -/
def handleEnterDataState (network : NetworkState) (command : Text) : String :=
  if (getNextInt (skipComma (skipPrefix command))).1 ∈ network.activeContexts then "CONNECT"
  else "ERROR"

/-- `AT+CGCONTRDP`. -/
def handleReadDynamicParam (network : NetworkState) (command : Text) : String :=
  if (getNextInt (skipPrefix command)).1 ∈ network.activeContexts then "OK"
  else cmeErrorInvalidIndex

end DataService

/-- `AT+CCFCU`. -/
def SupService.handleCallForward (command : Text) : String :=
  if (getNextInt (skipPrefix command)).1 ∈ [0, 1, 2, 3, 4] then "OK"
  else cmeErrorInCorrectParameters

end Cuttlefish.ModemSimulator
