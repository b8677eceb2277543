import Cuttlefish.ModemSimulator.ServiceResponses
import Cuttlefish.ModemSimulator.StkService

/-! # Dispatching commands

`ModemSimulator::DispatchCommand`: the tables of command handlers of all
services, the handler that a command selects and what it answers. The state is
that of the SIM, call, SMS and STK services. The network, data, supplementary and
miscellaneous services keep a state of their own that no call that throws reads;
of their responses the model has the result code. -/

namespace Cuttlefish.ModemSimulator

open Xml

/-! ## Command handlers -/

/-- The functions that handle a command, one for each `Handle...` of the
services. -/
inductive Handler
  -- SimService
  | simStatusReq
  | changeOrEnterPIN
  | simIo
  | csimIo
  | getIMSI
  | getIccId
  | facilityLock
  | openLogicalChannel
  | closeLogicalChannel
  | transmitLogicalChannel
  | changePassword
  | queryRemainTimes
  | cdmaSubscriptionSource
  | cdmaRoamingPreference
  | simAuthentication
  | phoneNumberUpdate
  -- NetworkService
  | radioPowerReq
  | radioPower
  | signalStrength
  | queryNetworkSelectionMode
  | requestOperator
  | queryAvailableNetwork
  | setNetworkSelectionMode
  | voiceNetworkRegistration
  | dataNetworkRegistration
  | getPreferredNetworkType
  | querySupportedTechs
  | setPreferredNetworkType
  | receiveRemoteCTEC
  | receiveRemoteSignal
  | receiveRemoteVoiceDataReg
  | identifierDisclosure
  | securityAlgorithmUpdate
  -- DataService
  | activateDataCall
  | queryDataCallList
  | pdpContext
  | queryPDPContextList
  | enterDataState
  | readDynamicParam
  -- CallService
  | dial
  | acceptCall
  | rejectCall
  | currentCalls
  | hangup
  | mute
  | sendDtmf
  | cancelUssd
  | emergencyMode
  | remoteCall
  -- SmsService
  | sendSMS
  | smsAcknowledge
  | writeSMSToSim
  | deleteSmsOnSim
  | broadcastConfig
  | getSmscAddress
  | setSmscAddress
  | receiveRemoteSMS
  -- SupService
  | ussd
  | clir
  | callWaiting
  | clip
  | callForward
  | suppServiceNotifications
  -- StkService
  | reportStkServiceIsRunning
  | sendEnvelope
  | sendTerminalResponseToSim
  -- MiscService and ModemService
  | getIMEI
  | timeUpdate
  | commandDefaultSupported
  deriving DecidableEq, Repr

inductive MatchMode
  | fullMatch
  | partialMatch
  deriving DecidableEq, Repr

structure CommandHandler where
  commandPrefix : Text
  matchMode : MatchMode
  handler : Handler
  deriving DecidableEq, Repr

namespace CommandHandler

def full (command : String) (handler : Handler) : CommandHandler :=
  ⟨command.toList, .fullMatch, handler⟩

def starting (command : String) (handler : Handler) : CommandHandler :=
  ⟨command.toList, .partialMatch, handler⟩

/-- `Compare(command) == 0`, which skips the first two characters; `none` where
`compare` throws. -/
def compare (entry : CommandHandler) (command : Text) : Option Bool :=
  match entry.matchMode with
  | .partialMatch =>
      CxxString.compareEqual command 2 entry.commandPrefix.length entry.commandPrefix
  | .fullMatch => CxxString.compareEqual command 2 command.length entry.commandPrefix

end CommandHandler

open CommandHandler

def simCommandHandlers : List CommandHandler :=
  [full "+CPIN?" .simStatusReq, starting "+CPIN=" .changeOrEnterPIN,
    starting "+CRSM=" .simIo, starting "+CSIM=" .csimIo, full "+CIMI" .getIMSI,
    full "+CICCID" .getIccId, starting "+CLCK=" .facilityLock,
    starting "+CCHO=" .openLogicalChannel, starting "+CCHC=" .closeLogicalChannel,
    starting "+CGLA=" .transmitLogicalChannel, starting "+CPWD=" .changePassword,
    starting "+CPINR=" .queryRemainTimes, starting "+CCSS" .cdmaSubscriptionSource,
    starting "+WRMP" .cdmaRoamingPreference, starting "^MBAU=" .simAuthentication,
    starting "+REMOTEUPADATEPHONENUMBER" .phoneNumberUpdate]

def networkCommandHandlers : List CommandHandler :=
  [full "+CFUN?" .radioPowerReq, starting "+CFUN=" .radioPower,
    starting "+REMOTECFUN=" .radioPower, full "+CSQ" .signalStrength,
    full "+COPS?" .queryNetworkSelectionMode,
    full "+COPS=3,0;+COPS?;+COPS=3,1;+COPS?;+COPS=3,2;+COPS?" .requestOperator,
    full "+COPS=?" .queryAvailableNetwork, starting "+COPS=" .setNetworkSelectionMode,
    starting "+CREG" .voiceNetworkRegistration, starting "+CGREG" .dataNetworkRegistration,
    starting "+CEREG" .dataNetworkRegistration, full "+CTEC?" .getPreferredNetworkType,
    full "+CTEC=?" .querySupportedTechs, starting "+CTEC=" .setPreferredNetworkType,
    starting "+REMOTECTEC" .receiveRemoteCTEC, starting "+REMOTESIGNAL" .receiveRemoteSignal,
    starting "+REMOTEREG" .receiveRemoteVoiceDataReg,
    starting "+REMOTEIDDISCLOSURE" .identifierDisclosure,
    starting "+UPDATESECURITYALGORITHM" .securityAlgorithmUpdate]

def dataCommandHandlers : List CommandHandler :=
  [starting "+CGACT=" .activateDataCall, full "+CGACT?" .queryDataCallList,
    starting "+CGDCONT=" .pdpContext, full "+CGDCONT?" .queryPDPContextList,
    full "+CGQREQ=1" .commandDefaultSupported, full "+CGQMIN=1" .commandDefaultSupported,
    full "+CGEREP=1,0" .commandDefaultSupported, starting "+CGDATA" .enterDataState,
    full "D*99***1#" .commandDefaultSupported, starting "+CGCONTRDP" .readDynamicParam]

def callCommandHandlers : List CommandHandler :=
  [starting "D" .dial, full "A" .acceptCall, full "H" .rejectCall, full "+CLCC" .currentCalls,
    starting "+CHLD=" .hangup, starting "+CMUT" .mute, starting "+VTS=" .sendDtmf,
    starting "+CUSD=" .cancelUssd, starting "+WSOS=0" .emergencyMode,
    starting "+REMOTECALL" .remoteCall]

def smsCommandHandlers : List CommandHandler :=
  [starting "+CMGS" .sendSMS, starting "+CNMA" .smsAcknowledge,
    starting "+CMGW" .writeSMSToSim, starting "+CMGD" .deleteSmsOnSim,
    starting "+CSCB" .broadcastConfig, full "+CSCA?" .getSmscAddress,
    starting "+CSCA=" .setSmscAddress, starting "+REMOTESMS" .receiveRemoteSMS]

def supCommandHandlers : List CommandHandler :=
  [starting "+CUSD" .ussd, starting "+CLIR" .clir, starting "+CCWA" .callWaiting,
    full "+CLIP?" .clip, starting "+CCFCU" .callForward,
    starting "+CSSN" .suppServiceNotifications]

def stkCommandHandlers : List CommandHandler :=
  [full "+CUSATD?" .reportStkServiceIsRunning, starting "+CUSATE=" .sendEnvelope,
    starting "+CUSATT=" .sendTerminalResponseToSim]

def miscCommandHandlers : List CommandHandler :=
  [full "E0Q0V1" .commandDefaultSupported, full "S0=0" .commandDefaultSupported,
    full "+CMEE=1" .commandDefaultSupported, full "+CMOD=0" .commandDefaultSupported,
    full "+CSSN=0,1" .commandDefaultSupported, full "+COLP=0" .commandDefaultSupported,
    full "+CSCS=\"HEX\"" .commandDefaultSupported, full "+CMGF=0" .commandDefaultSupported,
    starting "+CGSN" .getIMEI, starting "+REMOTETIMEUPDATE" .timeUpdate]

def modemServices : List (List CommandHandler) :=
  [simCommandHandlers, networkCommandHandlers, dataCommandHandlers, callCommandHandlers,
    smsCommandHandlers, supCommandHandlers, stkCommandHandlers, miscCommandHandlers]

/-- The first handler of a service that the command selects; `none` where
`Compare` throws. -/
def handleModemCommand (command : Text) : List CommandHandler → Option (Option Handler)
  | [] => some none
  | entry :: rest =>
      match entry.compare command with
      | none => none
      | some true => some (some entry.handler)
      | some false => handleModemCommand command rest

def selectHandler (command : Text) : List (List CommandHandler) → Option (Option Handler)
  | [] => some none
  | service :: rest =>
      match handleModemCommand command service with
      | none => none
      | some (some handler) => some (some handler)
      | some none => selectHandler command rest

/-! ## State -/

/-- `ModemSimulator` with the services whose state is modelled. -/
structure Simulator (Element : Type) where
  sim : SimCard Element
  call : CallService
  sms : SmsService
  stk : StkService

/-- What the other services, the host and the process answer during a command:
the client that sent it, the state of the network, whether the modem that is
called is open and which connection it gets, the time, what an access outside of a
text reads, and the state of the network and data services. -/
structure Env where
  client : ClientId
  isRemote : Bool
  registration : CallService.Registration
  radioOff : Bool
  remoteIsOpen : Bool
  remoteClient : ClientId
  timeStamp : Text
  outside : Int → Char
  network : NetworkState

/-! ## Handlers of the network service -/

open CommandParser in
def preferredText (command : Text) : Text :=
  (getNextStr (getNextInt (skipPrefix command)).2).1

/-- The number behind a marker of the given length; `none` where `substr` or
`stoi` throws. -/
def numberAfter (marker : String) (command : Text) : Option Int :=
  match CxxString.substr command marker.length with
  | none => none
  | some text => Decimal.stoi text

namespace Simulator

variable {Element : Type} (api : DocumentApi Element)

/-! ## Dialling -/

/-- The number that `HandleDial` looks up among the fixed dial numbers, if it gets
that far. -/
def fixedDialQuery (registration : CallService.Registration) (fdnEnabled : Bool)
    (command : Text) : Option Text :=
  match CallService.dialledNumber (CommandParser.skipPrefixAT command) with
  | none => none
  | some (number, emergencyNumber) =>
      if (registration = .home ∨ registration = .roaming) ∧ number.all Decimal.isDigit = true ∧
          emergencyNumber = false ∧ fdnEnabled = true then
        some number
      else none

def dialEnv (simulator : Simulator Element) (env : Env) (isFixedDialNumber : Bool) :
    CallService.DialEnv where
  registration := env.registration
  fdnEnabled := simulator.sim.isFDNEnabled
  isFixedDialNumber := isFixedDialNumber
  remoteIsOpen := env.remoteIsOpen
  remoteClient := env.remoteClient

def handleDial (simulator : Simulator Element) (env : Env) (command : Text) :
    Option (CallService × List Output) :=
  match fixedDialQuery env.registration simulator.sim.isFDNEnabled command with
  | none => simulator.call.handleDial (simulator.dialEnv env false) command
  | some number =>
      match simulator.sim.isFixedDialNumber api env.outside number with
      | none => none
      | some fixed => simulator.call.handleDial (simulator.dialEnv env fixed) command

/-! ## Performing a command -/

def withSim (simulator : Simulator Element) (sim : SimCard Element) : Simulator Element :=
  { simulator with sim }

def withPins (simulator : Simulator Element) (pins : SimService) : Simulator Element :=
  { simulator with sim := { simulator.sim with pins } }

def withCall (simulator : Simulator Element) (call : CallService) : Simulator Element :=
  { simulator with call }

def withSms (simulator : Simulator Element) (sms : SmsService) : Simulator Element :=
  { simulator with sms }

def withStk (simulator : Simulator Element) (stk : StkService) : Simulator Element :=
  { simulator with stk }

def callResponse (outputs : List Output) : List String :=
  outputs.flatMap fun output =>
    match output with
    | .response lines => lines
    | _ => []

def smsResponse (outputs : List SmsOutput) : List String :=
  outputs.flatMap fun output =>
    match output with
    | .response lines => lines
    | _ => []

def simResult (simulator : Simulator Element) (result : SimCard Element × List String) :
    Simulator Element × List String :=
  (simulator.withSim result.1, result.2)

def pinResult (simulator : Simulator Element) (result : SimService × List String) :
    Simulator Element × List String :=
  (simulator.withPins result.1, result.2)

def callResult (simulator : Simulator Element) (result : CallService × List Output) :
    Simulator Element × List String :=
  (simulator.withCall result.1, callResponse result.2)

def smsResult (simulator : Simulator Element) (result : SmsService × List SmsOutput) :
    Simulator Element × List String :=
  (simulator.withSms result.1, smsResponse result.2)

/-- The state after a handler has run, and its response; `none` when it does not
return. -/
def perform (simulator : Simulator Element) (env : Env) (command : Text) :
    Handler → Option (Simulator Element × List String)
  | .simStatusReq => some (simulator, simulator.sim.pins.handleSIMStatusReq)
  | .changeOrEnterPIN =>
      some (simulator.pinResult (simulator.sim.pins.handleChangeOrEnterPIN command))
  | .facilityLock => some (simulator.pinResult (simulator.sim.pins.handleFacilityLock command))
  | .changePassword =>
      some (simulator.pinResult (simulator.sim.pins.handleChangePassword command))
  | .queryRemainTimes => some (simulator, simulator.sim.pins.handleQueryRemainTimes command)
  | .simIo => (simulator.sim.handleSIM_IO api command).map simulator.simResult
  | .csimIo => (simulator.sim.handleCSIM_IO api command).map simulator.simResult
  | .getIMSI => (simulator.sim.handleGetIMSI api).map simulator.simResult
  | .getIccId => (simulator.sim.handleGetIccId api).map simulator.simResult
  | .openLogicalChannel =>
      some (simulator.simResult (simulator.sim.handleOpenLogicalChannel api command))
  | .closeLogicalChannel =>
      some (simulator.simResult (simulator.sim.handleCloseLogicalChannel command))
  | .transmitLogicalChannel =>
      (simulator.sim.handleTransmitLogicalChannel api command).map simulator.simResult
  | .phoneNumberUpdate =>
      (simulator.sim.handlePhoneNumberUpdate api command).map fun sim =>
        (simulator.withSim sim, [])
  | .radioPower => some (simulator, [NetworkService.handleRadioPower command])
  | .requestOperator => some (simulator, [NetworkService.handleRequestOperator env.network])
  | .setNetworkSelectionMode =>
      some (simulator, [NetworkService.handleSetNetworkSelectionMode env.network command])
  | .voiceNetworkRegistration =>
      some (simulator, [NetworkService.handleVoiceNetworkRegistration command])
  | .dataNetworkRegistration =>
      some (simulator, [NetworkService.handleDataNetworkRegistration command])
  | .setPreferredNetworkType =>
      (Hexadecimal.stoi (preferredText command)).map fun _ => (simulator, ["OK"])
  | .receiveRemoteCTEC => (numberAfter "AT+REMOTECTEC: " command).map fun _ => (simulator, [])
  | .receiveRemoteSignal => (numberAfter "AT+REMOTESIGNAL:" command).map fun _ => (simulator, [])
  | .receiveRemoteVoiceDataReg =>
      (numberAfter "AT+REMOTEREG:" command).map fun _ => (simulator, [])
  | .identifierDisclosure => (CxxString.substr command 2).map fun _ => (simulator, [])
  | .securityAlgorithmUpdate => (CxxString.substr command 2).map fun _ => (simulator, [])
  | .enterDataState => some (simulator, [DataService.handleEnterDataState env.network command])
  | .readDynamicParam =>
      some (simulator, [DataService.handleReadDynamicParam env.network command])
  | .dial => (simulator.handleDial api env command).map simulator.callResult
  | .acceptCall => some (simulator.callResult simulator.call.handleAcceptCall)
  | .rejectCall => some (simulator.callResult simulator.call.handleRejectCall)
  | .currentCalls => some (simulator, callResponse simulator.call.handleCurrentCalls)
  | .hangup => (simulator.call.handleHangup command).map simulator.callResult
  | .mute => some (simulator.callResult (simulator.call.handleMute command))
  | .emergencyMode => some (simulator.callResult (simulator.call.handleEmergencyMode command))
  | .remoteCall =>
      some (simulator.callResult
        (simulator.call.handleRemoteCall env.client env.radioOff command))
  | .sendSMS => some (simulator.smsResult simulator.sms.handleSendSMS)
  | .smsAcknowledge => some (simulator.smsResult simulator.sms.handleSMSAcknowledge)
  | .writeSMSToSim => some (simulator.smsResult (simulator.sms.handleWriteSMSToSim command))
  | .deleteSmsOnSim => some (simulator.smsResult (simulator.sms.handleDeleteSmsOnSim command))
  | .broadcastConfig => some (simulator.smsResult (simulator.sms.handleBroadcastConfig command))
  | .getSmscAddress => some (simulator.smsResult simulator.sms.handleGetSmscAddress)
  | .setSmscAddress => some (simulator.smsResult (simulator.sms.handleSetSmscAddress command))
  | .receiveRemoteSMS =>
      some (simulator.smsResult (simulator.sms.handleReceiveRemoteSMS env.timeStamp command))
  | .callForward => some (simulator, [SupService.handleCallForward command])
  | .reportStkServiceIsRunning =>
      (StkService.handleReportStkServiceIsRunning api simulator.sim.profile).map fun _ =>
        (simulator, ["+CUSATD: 0,1", "OK"])
  | .sendEnvelope =>
      (simulator.stk.handleSendEnvelope api simulator.sim.profile command).map fun result =>
        (simulator.withStk result.1, ["+CUSATE: 0", "OK"])
  | .sendTerminalResponseToSim =>
      (simulator.stk.handleSendTerminalResponseToSim api simulator.sim.profile command).map
        fun result => (simulator.withStk result.1, ["+CUSATT: 0", "OK"])
  | .timeUpdate => some (simulator, [])
  -- The others answer `OK`, change no state that is modelled and do not throw.
  | .cdmaSubscriptionSource | .cdmaRoamingPreference | .simAuthentication | .radioPowerReq
  | .signalStrength | .queryNetworkSelectionMode | .queryAvailableNetwork
  | .getPreferredNetworkType | .querySupportedTechs | .activateDataCall | .queryDataCallList
  | .pdpContext | .queryPDPContextList | .sendDtmf | .cancelUssd | .ussd | .clir | .callWaiting
  | .clip | .suppServiceNotifications | .getIMEI | .commandDefaultSupported =>
      some (simulator, ["OK"])

def handlePdu (simulator : Simulator Element) (env : Env) (command : Text) :
    Option (Simulator Element × List String) :=
  if simulator.sms.isWaitingSmsPdu then
    (simulator.sms.handleSendSMSPDU ⟨simulator.call.hostId, env.remoteIsOpen⟩
      (simulator.sim.getPhoneNumber api env.outside) command).map simulator.smsResult
  else some (simulator.smsResult (simulator.sms.handleWriteSMSPduToSim command))

def isWaitingPdu (simulator : Simulator Element) : Bool :=
  simulator.sms.isWaitingSmsPdu || simulator.sms.isWaitingSmsToSim

/-- The state after a command and the response to it; `none` when an exception
leaves `DispatchCommand`. -/
def dispatchCommand (simulator : Simulator Element) (env : Env) (command : Text) :
    Option (Simulator Element × List String) :=
  if simulator.isWaitingPdu then simulator.handlePdu api env command
  else
    match selectHandler command modemServices with
    | none => none
    | some none =>
        some (simulator, if env.isRemote then [] else [cmeErrorOperationNotSupported])
    | some (some handler) => simulator.perform api env command handler

end Simulator

end Cuttlefish.ModemSimulator
