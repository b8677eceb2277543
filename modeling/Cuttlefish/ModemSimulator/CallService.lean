import Cuttlefish.Foundation.OrderedMap
import Cuttlefish.ModemSimulator.CommandParser
import Cuttlefish.ModemSimulator.SimService
import Cuttlefish.ModemSimulator.ThreadLooper

/-! # Call service

`CallService` of `host/commands/modem_simulator`: the calls of one modem, the
commands that act on them, the messages of remote modems and the callbacks that
are run later. What other services and the operating system answer is an
argument of the step that asks for it. -/

namespace Cuttlefish.ModemSimulator

/-! ## Calls -/

inductive CallState
  | active
  | held
  | dialing
  | alerting
  | incoming
  | waiting
  | hangup
  deriving DecidableEq, Repr

def CallState.number : CallState → Nat
  | active => 0
  | held => 1
  | dialing => 2
  | alerting => 3
  | incoming => 4
  | waiting => 5
  | hangup => 6

abbrev ClientId := Nat

/-- `CallStatus`. The field `id` names the call itself and is not in the source:
index and number of a call can be used again after it has ended. -/
structure CallStatus where
  callState : CallState
  isMobileTerminated : Bool
  isInternational : Bool
  isVoiceMode : Bool
  isMultiParty : Bool
  isRemoteCall : Bool
  remoteClient : Option ClientId
  timeoutSerial : Option Int
  number : Text
  id : Nat
  deriving DecidableEq, Repr

namespace CallStatus

/-- The constructor for a number. It does not set `is_remote_call`, which is only
read together with `remote_client`. -/
def ofNumber (number : Text) (id : Nat) : CallStatus where
  callState := .incoming
  isMobileTerminated := true
  isInternational := false
  isVoiceMode := true
  isMultiParty := false
  isRemoteCall := false
  remoteClient := none
  timeoutSerial := none
  number := number
  id := id

def setCallBackground (call : CallStatus) : CallStatus :=
  if call.callState = .active then { call with callState := .held } else call

def setCallActive (call : CallStatus) : CallStatus :=
  if call.callState = .incoming ∨ call.callState = .waiting ∨ call.callState = .dialing ∨
      call.callState = .held then
    { call with callState := .active }
  else call

end CallStatus

/-- What is waiting in the looper. A timeout carries its call token and, beside
the source, the call that armed it. -/
inductive Callback
  | timerWaitingRemoteCallResponse (index : Int) (number : Text) (call : Nat)
  | simulatePendingCallsAnswered
  | callStateUpdate
  | otherService
  deriving DecidableEq, Repr

inductive Output
  | response (lines : List String)
  | unsolicited (text : String)
  | toRemote (client : ClientId) (text : String)
  | closeRemote (client : ClientId)
  deriving DecidableEq, Repr

def cmeErrorNoNetworkService : String := "+CME ERROR: 30"
def cmeErrorNetworkNotAllowedEmergencyCallsOnly : String := "+CME ERROR: 32"
def cmeErrorFixedDialNumberOnlyAllowed : String := "+CME ERROR: 56"

def remotePortMin : Int := 6520
def remotePortMax : Int := 6527

structure CallService where
  activeCalls : OrderedMap CallStatus
  inEmergencyMode : Bool
  muteOn : Bool
  hostId : Text
  looper : ThreadLooper Callback
  nextCall : Nat

namespace CallService

def initial (hostId : Text) (inEmergencyMode : Bool) : CallService where
  activeCalls := .empty
  inEmergencyMode := inEmergencyMode
  muteOn := false
  hostId := hostId
  looper := .initial
  nextCall := 0

def findFreeCallIndex (service : CallService) : Int :=
  service.activeCalls.firstFree service.activeCalls.entries.length 1

def addCall (service : CallService) (call : CallStatus) : CallService :=
  { service with
    activeCalls := service.activeCalls.insert service.findFreeCallIndex call
    nextCall := service.nextCall + 1 }

def printBool (value : Bool) : String := if value then "1" else "0"

def sendCallStatusToRemote (service : CallService) (call : CallStatus) (state : CallState) :
    List Output :=
  match call.isRemoteCall, call.remoteClient with
  | true, some client =>
      .toRemote client ("AT+REMOTECALL=" ++ toString state.number ++ "," ++
          printBool call.isVoiceMode ++ "," ++ printBool call.isMultiParty ++ ",\"" ++
          String.ofList service.hostId ++ "\"," ++ printBool call.isInternational) ::
        if state = .hangup then [.closeRemote client] else []
  | _, _ => []

/-! ## Callbacks -/

def answered (call : CallStatus) : CallStatus :=
  if call.callState = .dialing then call.setCallActive else call

def simulatePendingCallsAnswered (service : CallService) : CallService :=
  { service with activeCalls := service.activeCalls.update fun call => some (answered call) }

def callStateUpdate : List Output := [.unsolicited "RING"]

def timerWaitingRemoteCallResponse (service : CallService) (index : Int) (number : Text) :
    CallService × List Output :=
  match service.activeCalls.find index with
  | none => (service, [])
  | some call =>
      if call.number = number then
        ({ service with activeCalls := service.activeCalls.erase index },
          (call.remoteClient.toList.map Output.closeRemote) ++ callStateUpdate)
      else (service, [])

def runCallback (service : CallService) : Callback → CallService × List Output
  | .timerWaitingRemoteCallResponse index number _ =>
      service.timerWaitingRemoteCallResponse index number
  | .simulatePendingCallsAnswered => (service.simulatePendingCallsAnswered, [])
  | .callStateUpdate => (service, callStateUpdate)
  | .otherService => (service, [])

/-! ## Dialling -/

inductive Registration
  | home
  | roaming
  | emergency
  | other
  deriving DecidableEq, Repr

structure DialEnv where
  registration : Registration
  fdnEnabled : Bool
  isFixedDialNumber : Bool
  remoteIsOpen : Bool
  remoteClient : ClientId
  deriving DecidableEq, Repr

def findLastOf (char : Char) (text : Text) : Option Nat :=
  if text.contains char then
    some (text.length - 1 - (text.reverse.takeWhile (· != char)).length)
  else none

def dialledUpTo (cmd : Text) (pos : Nat) : Text :=
  if pos = 0 then cmd.drop 1 else (cmd.drop 1).take (pos - 1)

/-- The dialled number and whether it is an emergency number; `none` where
`substr` throws. -/
def dialledNumber (cmd : Text) : Option (Text × Bool) :=
  if cmd.isEmpty then none
  else
    match findLastOf '@' cmd with
    | some pos => some (dialledUpTo cmd pos, true)
    | none =>
        match ((findLastOf 'i' cmd).or (findLastOf 'I' cmd)).or (findLastOf ';' cmd) with
        | none => some (cmd.drop 1, false)
        | some pos => some (dialledUpTo cmd pos, false)

def dialledPort (number : Text) : Option Int :=
  if number.length = 11 then Decimal.stoi (number.drop 7)
  else if number.length = 4 then Decimal.stoi number
  else some 0

inductive DialDecision
  | refuse (response : String)
  | remote (port : Int)
  | local_ (number : Text) (emergencyNumber : Bool)
  deriving DecidableEq, Repr

def decideRemote (hostId : Text) (env : DialEnv) (port : Int) : DialDecision :=
  if !env.remoteIsOpen then .refuse cmeErrorNoNetworkService
  else if hostId = Decimal.print port then .refuse cmeErrorOperationNotAllowed
  else .remote port

def decideDial (hostId : Text) (env : DialEnv) (command : Text) : Option DialDecision :=
  if env.registration = .other then some (.refuse cmeErrorNoNetworkService)
  else
    match dialledNumber (CommandParser.skipPrefixAT command) with
    | none => none
    | some (number, emergencyNumber) =>
        if !number.all Decimal.isDigit then some (.refuse cmeErrorInCorrectParameters)
        else if env.registration = .emergency ∧ emergencyNumber = false then
          some (.refuse cmeErrorNetworkNotAllowedEmergencyCallsOnly)
        else if emergencyNumber = false ∧ env.fdnEnabled = true ∧
            env.isFixedDialNumber = false then
          some (.refuse cmeErrorFixedDialNumberOnlyAllowed)
        else
          match dialledPort number with
          | none => none
          | some port =>
              if remotePortMin ≤ port ∧ port ≤ remotePortMax then
                some (decideRemote hostId env port)
              else some (.local_ number emergencyNumber)

def dialRemote (service : CallService) (env : DialEnv) (port : Int) :
    CallService × List Output :=
  let remotePort := Decimal.print port
  let index := service.findFreeCallIndex
  let (serial, looper) := service.looper.post
    (.timerWaitingRemoteCallResponse index remotePort service.nextCall)
  let call := { CallStatus.ofNumber remotePort service.nextCall with
    isRemoteCall := true
    isMobileTerminated := false
    callState := .dialing
    remoteClient := some env.remoteClient
    timeoutSerial := some serial }
  ({ service.addCall call with looper },
    [.toRemote env.remoteClient "REM0",
      .toRemote env.remoteClient
        ("AT+REMOTECALL=4,0,0,\"" ++ String.ofList service.hostId ++ "\",129"),
      .response ["OK"]])

def dialLocal (service : CallService) (number : Text) (emergencyNumber : Bool) :
    CallService × List Output :=
  let call := { CallStatus.ofNumber number service.nextCall with
    isMobileTerminated := false
    callState := .dialing }
  let looper := (service.looper.post .simulatePendingCallsAnswered).2
  let service := { service.addCall call with looper }
  if emergencyNumber then
    ({ service with inEmergencyMode := true }, [.unsolicited "+WSOS: 1", .response ["OK"]])
  else (service, [.response ["OK"]])

def handleDial (service : CallService) (env : DialEnv) (command : Text) :
    Option (CallService × List Output) :=
  match decideDial service.hostId env command with
  | none => none
  | some (.refuse response) => some (service, [.response [response]])
  | some (.remote port) => some (service.dialRemote env port)
  | some (.local_ number emergencyNumber) => some (service.dialLocal number emergencyNumber)

/-! ## Commands on existing calls -/

def forEachCall (service : CallService)
    (action : CallStatus → Option CallStatus × List Output) : CallService × List Output :=
  ({ service with activeCalls := service.activeCalls.update fun call => (action call).1 },
    service.activeCalls.entries.flatMap fun entry => (action entry.2).2)

def hangUp (service : CallService) (call : CallStatus) : Option CallStatus × List Output :=
  (none, service.sendCallStatusToRemote call .hangup)

def activate (service : CallService) (call : CallStatus) : Option CallStatus × List Output :=
  (some call.setCallActive, service.sendCallStatusToRemote call.setCallActive .active)

def hold (service : CallService) (call : CallStatus) : Option CallStatus × List Output :=
  (some call.setCallBackground, service.sendCallStatusToRemote call.setCallBackground .held)

/-- `ATA`. -/
def acceptAction (service : CallService) (call : CallStatus) :
    Option CallStatus × List Output :=
  if call.callState = .incoming then service.activate call
  else if call.callState = .active then service.hold call
  else (some call, [])

/-- `ATH`. -/
def rejectAction (service : CallService) (call : CallStatus) :
    Option CallStatus × List Output :=
  if call.callState = .incoming then service.hangUp call else (some call, [])

/-- `AT+CHLD=0`. -/
def releaseHeldAction (service : CallService) (call : CallStatus) :
    Option CallStatus × List Output :=
  if call.callState = .incoming ∨ call.callState = .held ∨ call.callState = .waiting then
    service.hangUp call
  else (some call, [])

/-- `AT+CHLD=1`. -/
def releaseActiveAction (service : CallService) (call : CallStatus) :
    Option CallStatus × List Output :=
  if call.callState = .active then service.hangUp call
  else if call.callState = .held ∨ call.callState = .waiting then service.activate call
  else (some call, [])

/-- `AT+CHLD=2`. -/
def swapAction (service : CallService) (call : CallStatus) :
    Option CallStatus × List Output :=
  if call.callState = .active ∨ call.callState = .waiting then service.hold call
  else if call.callState = .held then service.activate call
  else (some call, [])

def resumeAction (service : CallService) (call : CallStatus) :
    Option CallStatus × List Output :=
  if call.callState = .held then service.activate call else (some call, [])

def hangUpIndex (service : CallService) (index : Int) : CallService × List Output :=
  match service.activeCalls.find index with
  | none => (service, [])
  | some call =>
      ({ service with activeCalls := service.activeCalls.erase index },
        (service.hangUp call).2)

def withOk (result : CallService × List Output) : CallService × List Output :=
  (result.1, result.2 ++ [Output.response ["OK"]])

def handleAcceptCall (service : CallService) : CallService × List Output :=
  withOk (service.forEachCall service.acceptAction)

def handleRejectCall (service : CallService) : CallService × List Output :=
  withOk (service.forEachCall service.rejectAction)

def handleHangup (service : CallService) (command : Text) :
    Option (CallService × List Output) :=
  let action := CommandParser.skipPrefix command
  match Decimal.stoi (action.take 1) with
  | none => none
  | some n =>
      match (if 1 < action.length then Decimal.stoi (action.drop 1) else some (-1)) with
      | none => none
      | some index =>
          if n = 0 then some (withOk (service.forEachCall service.releaseHeldAction))
          else if n = 1 then
            if index = -1 then some (withOk (service.forEachCall service.releaseActiveAction))
            else some (withOk (service.hangUpIndex index))
          else if n = 2 then
            if index = -1 then some (withOk (service.forEachCall service.swapAction))
            else some (withOk (service.hangUpIndex index))
          else if n = 3 ∨ n = 4 then
            some (withOk (service.forEachCall service.resumeAction))
          else some (service, [.response [cmeErrorOperationNotAllowed]])

def printCall (index : Int) (call : CallStatus) : String :=
  "+CLCC: " ++ String.ofList (Decimal.print index) ++ "," ++
    printBool call.isMobileTerminated ++ "," ++ toString call.callState.number ++ "," ++
    printBool call.isVoiceMode ++ "," ++ printBool call.isMultiParty ++ "," ++
    String.ofList call.number ++ "," ++ (if call.isInternational then "145" else "129")

def handleCurrentCalls (service : CallService) : List Output :=
  [.response ((service.activeCalls.entries.map fun entry => printCall entry.1 entry.2) ++
    ["OK"])]

open CommandParser in
/-- `AT+CMUT`. -/
def handleMute (service : CallService) (command : Text) : CallService × List Output :=
  let cmd := skipPrefix command
  if cmd = "AT+CMUT?".toList then
    (service, [.response ["+CMUT: " ++ printBool service.muteOn, "OK"]])
  else
    let n := (getNextInt cmd).1
    if n = 0 then ({ service with muteOn := false }, [.response ["OK"]])
    else if n = 1 then ({ service with muteOn := true }, [.response ["OK"]])
    else (service, [.response [cmeErrorInCorrectParameters]])

open CommandParser in
def handleEmergencyMode (service : CallService) (command : Text) :
    CallService × List Output :=
  let cmd := skipPrefix command
  if cmd = "AT+WSOS?".toList then (service, [.response ["OK"]])
  else
    let n := (getNextInt cmd).1
    if n = 0 then ({ service with inEmergencyMode := false }, [.response ["OK"]])
    else if n = 1 then ({ service with inEmergencyMode := true }, [.response ["OK"]])
    else (service, [.response [cmeErrorInCorrectParameters]])

/-! ## Messages of remote modems -/

def cancelTimeout (service : CallService) (call : CallStatus) : CallService :=
  match call.timeoutSerial with
  | none => service
  | some serial => { service with looper := service.looper.cancelSerial serial }

def setCall (service : CallService) (index : Int) (call : CallStatus) : CallService :=
  { service with activeCalls := service.activeCalls.insert index call }

def postUpdate (service : CallService) : CallService :=
  { service with looper := (service.looper.post .callStateUpdate).2 }

def findByNumber (service : CallService) (number : Text) : Option (Int × CallStatus) :=
  service.activeCalls.entries.find? fun entry => entry.2.number = number

structure RemoteMessage where
  state : Int
  mode : Int
  mpty : Int
  number : Text
  numType : Int
  deriving DecidableEq, Repr

open CommandParser in
/-- `AT+REMOTECALL=<stat>,<mode>,<mpty>,<number>,<num_type>`. -/
def parseRemoteCall (command : Text) : RemoteMessage :=
  let cmd := skipPrefix command
  let (state, cmd) := getNextInt cmd
  let (mode, cmd) := getNextInt cmd
  let (mpty, cmd) := getNextInt cmd
  let (number, cmd) := getNextStr cmd
  let (numType, _) := getNextInt cmd
  { state, mode, mpty, number, numType }

def incomingCall (message : RemoteMessage) (client : ClientId) (id : Nat) : CallStatus :=
  { CallStatus.ofNumber message.number id with
    isRemoteCall := true
    isVoiceMode := decide (message.mode ≠ 0)
    isMultiParty := decide (message.mpty ≠ 0)
    isMobileTerminated := true
    isInternational := decide (message.numType = 145)
    remoteClient := some client
    callState := .incoming }

def remoteChange (service : CallService) (number : Text)
    (change : CallStatus → CallStatus) : CallService :=
  match service.findByNumber number with
  | none => service
  | some (index, call) => (service.setCall index (change call)).cancelTimeout call

def remoteHangup (service : CallService) (number : Text) : CallService × List Output :=
  match service.findByNumber number with
  | none => (service, [])
  | some (index, call) =>
      ({ service with activeCalls := service.activeCalls.erase index }.cancelTimeout call,
        call.remoteClient.toList.map Output.closeRemote)

def handleRemoteCall (service : CallService) (client : ClientId) (radioOff : Bool)
    (command : Text) : CallService × List Output :=
  let message := parseRemoteCall command
  if message.state = CallState.active.number then
    ((service.remoteChange message.number CallStatus.setCallActive).postUpdate, [])
  else if message.state = CallState.held.number then
    ((service.remoteChange message.number CallStatus.setCallBackground).postUpdate, [])
  else if message.state = CallState.hangup.number then
    ((service.remoteHangup message.number).1.postUpdate,
      (service.remoteHangup message.number).2)
  else if message.state = CallState.incoming.number then
    if radioOff then (service, [.closeRemote client])
    else ((service.addCall (incomingCall message client service.nextCall)).postUpdate, [])
  else (service, [])

/-! ## Steps -/

/-- What can happen to the service: a command of a client, a message of a remote
modem, a callback of the looper, or another service posting a callback. -/
inductive Input
  | dial (env : DialEnv) (command : Text)
  | acceptCall
  | rejectCall
  | currentCalls
  | hangup (command : Text)
  | mute (command : Text)
  | sendDtmf
  | cancelUssd
  | emergencyMode (command : Text)
  | remoteCall (client : ClientId) (radioOff : Bool) (command : Text)
  | fire (index : Nat)
  | otherPost
  deriving DecidableEq, Repr

/-- The state and the output after an input; `none` when it throws an exception
or is not possible. -/
def handle (service : CallService) : Input → Option (CallService × List Output)
  | .dial env command => service.handleDial env command
  | .acceptCall => some service.handleAcceptCall
  | .rejectCall => some service.handleRejectCall
  | .currentCalls => some (service, service.handleCurrentCalls)
  | .hangup command => service.handleHangup command
  | .mute command => some (service.handleMute command)
  | .sendDtmf => some (service, [.response ["OK"]])
  | .cancelUssd => some (service, [.response ["OK"]])
  | .emergencyMode command => some (service.handleEmergencyMode command)
  | .remoteCall client radioOff command =>
      some (service.handleRemoteCall client radioOff command)
  | .fire index =>
      match service.looper.take index with
      | none => none
      | some (callback, looper) => some ({ service with looper }.runCallback callback)
  | .otherPost =>
      some ({ service with looper := (service.looper.post .otherService).2 }, [])

def step (service : CallService) (input : Input) : Option CallService :=
  (service.handle input).map Prod.fst

end CallService

end Cuttlefish.ModemSimulator
