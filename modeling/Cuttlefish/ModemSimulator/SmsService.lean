import Cuttlefish.ModemSimulator.CallService
import Cuttlefish.ModemSimulator.SimPhoneNumber

/-! # SMS service

`SmsService` of `host/commands/modem_simulator`. After `AT+CMGS` and `AT+CMGW`
the next command is taken as a PDU. What the host and the SIM answer is an
argument of the handler that asks for it; a handler that throws returns
`none`. -/

namespace Cuttlefish.ModemSimulator

def cmsErrorInvalidPDUModeParam : String := "+CMS ERROR: 304"
def cmsErrorSCAddressUnknown : String := "+CMS ERROR: 304"

structure SmsMessage where
  message : Text
  status : Int
  deriving DecidableEq, Repr

structure BroadcastConfig where
  mode : Int
  mids : Text
  dcss : Text
  deriving DecidableEq, Repr

structure SmsServiceCenterAddress where
  sca : Text
  tosca : Int
  deriving DecidableEq, Repr

structure SmsService where
  isWaitingSmsPdu : Bool
  isWaitingSmsToSim : Bool
  messageId : Int
  messageReference : Int
  smsStatusOnSim : Int
  broadcastConfig : BroadcastConfig
  smsServiceCenterAddress : SmsServiceCenterAddress
  messagesOnSimCard : OrderedMap SmsMessage

inductive SmsOutput
  | response (lines : List String)
  | unsolicited (text : String)
  | remoteSms (port command : Text)
  | postReceiveSMS (sms : PduParser)
  | postStatuReport (sms : PduParser) (messageReference : Int)
  deriving DecidableEq, Repr

namespace SmsService

/-- The service at start; what is not initialised is zero and empty here. -/
def initial : SmsService where
  isWaitingSmsPdu := false
  isWaitingSmsToSim := false
  messageId := 1
  messageReference := 1
  smsStatusOnSim := 0
  broadcastConfig := ⟨0, [], []⟩
  smsServiceCenterAddress := ⟨[], 0⟩
  messagesOnSimCard := .empty

/-- `AT+CMGS`. -/
def handleSendSMS (service : SmsService) : SmsService × List SmsOutput :=
  ({ service with isWaitingSmsPdu := true }, [.response ["> "]])

/-- `AT+CNMA`. -/
def handleSMSAcknowledge (service : SmsService) : SmsService × List SmsOutput :=
  (service, [.response ["OK"]])

open CommandParser in
/-- `AT+CMGW`. -/
def handleWriteSMSToSim (service : SmsService) (command : Text) :
    SmsService × List SmsOutput :=
  ({ service with
      isWaitingSmsToSim := true
      smsStatusOnSim := (getNextInt (skipComma (skipPrefix command))).1 },
    [.response ["> "]])

/-- `AT+CMGD`. -/
def handleDeleteSmsOnSim (service : SmsService) (command : Text) :
    SmsService × List SmsOutput :=
  let index := (CommandParser.getNextInt (CommandParser.skipPrefix command)).1
  match service.messagesOnSimCard.find index with
  | none => (service, [.response [cmeErrorInvalidIndex]])
  | some _ =>
      ({ service with messagesOnSimCard := service.messagesOnSimCard.erase index },
        [.response ["OK"]])

open CommandParser in
/-- `AT+CSCB`. -/
def handleBroadcastConfig (service : SmsService) (command : Text) :
    SmsService × List SmsOutput :=
  let cmd := skipPrefix command
  if cmd = "AT+CSCB?".toList then
    let config := service.broadcastConfig
    (service, [.response ["+CSCB: " ++ String.ofList (Decimal.print config.mode) ++ "," ++
      String.ofList config.mids ++ "," ++ String.ofList config.dcss, "OK"]])
  else
    let (mode, cmd) := getNextInt cmd
    let (mids, cmd) := getNextStr cmd
    let (dcss, _) := getNextStr cmd
    ({ service with broadcastConfig := { mode, mids, dcss } }, [.response ["OK"]])

/-- `AT+CSCA?`. -/
def handleGetSmscAddress (service : SmsService) : SmsService × List SmsOutput :=
  let address := service.smsServiceCenterAddress
  (service, [.response ["+CSCA: " ++ String.ofList address.sca ++ "," ++
    String.ofList (Decimal.print address.tosca), "OK"]])

open CommandParser in
/-- `AT+CSCA=`. -/
def handleSetSmscAddress (service : SmsService) (command : Text) :
    SmsService × List SmsOutput :=
  let (sca, cmd) := getNextStr (skipPrefix command)
  let (tosca, _) := getNextInt cmd
  ({ service with smsServiceCenterAddress := { sca, tosca } }, [.response ["OK"]])

def handleWriteSMSPduToSim (service : SmsService) (command : Text) :
    SmsService × List SmsOutput :=
  let message := { message := command, status := service.smsStatusOnSim }
  ({ service with
      isWaitingSmsToSim := false
      messageId := service.messageId + 1
      messagesOnSimCard := service.messagesOnSimCard.insert service.messageId message },
    [.response ["+CMGW: " ++ String.ofList (Decimal.print service.messageId), "OK"]])

/-- Deliver a message, as `HandleReceiveSMS` and `HandleReceiveRemoteSMS` do. -/
def receive (sms : PduParser) (timeStamp : Text) : List SmsOutput :=
  if sms.createPDU timeStamp = [] then []
  else [.unsolicited "+CMT: 0", .unsolicited (String.ofList (sms.createPDU timeStamp))]

/-- `AT+REMOTESMS`. -/
def handleReceiveRemoteSMS (service : SmsService) (timeStamp command : Text) :
    SmsService × List SmsOutput :=
  (service, receive (PduParser.decodePDU (CommandParser.skipPrefix command)) timeStamp)

/-! ## Sending a message -/

structure SmsEnv where
  hostId : Text
  remoteIsOpen : Bool
  deriving DecidableEq, Repr

def sendSmsToRemote (env : SmsEnv) (remotePort : Text) (sms : PduParser) :
    Option (List SmsOutput) :=
  if env.remoteIsOpen then
    match sms.createRemotePDU env.hostId with
    | none => none
    | some pdu => some [.remoteSms remotePort ("AT+REMOTESMS=".toList ++ pdu ++ ['\r'])]
  else some []

/-- The message is for a modem, for the SIM itself or for nobody. `ownNumber` is
the answer of `GetPhoneNumber`, which is asked only in the second case. -/
def deliver (env : SmsEnv) (ownNumber : Option Text) (sms : PduParser) (phoneNumber : Text)
    (port : Int) : Option (List SmsOutput) :=
  if remotePortMin ≤ port ∧ port ≤ remotePortMax then
    if env.hostId = Decimal.print port then some [.postReceiveSMS sms]
    else sendSmsToRemote env (Decimal.print port) sms
  else
    match ownNumber with
    | none => none
    | some own => some (if phoneNumber = own then [.postReceiveSMS sms] else [])

/-- The message was sent, or nobody noticed that it was not. -/
def sent (service : SmsService) (sms : PduParser) (outputs : List SmsOutput) :
    SmsService × List SmsOutput :=
  let messageReference := service.messageReference + 1
  ({ service with messageReference },
    outputs ++
      [SmsOutput.response ["+CMGS: " ++ String.ofList (Decimal.print messageReference), "OK"]] ++
      if sms.isNeededStatuReport then [SmsOutput.postStatuReport sms messageReference] else [])

def handleSendSMSPDU (service : SmsService) (env : SmsEnv) (ownNumber : Option Text)
    (command : Text) : Option (SmsService × List SmsOutput) :=
  let service := { service with isWaitingSmsPdu := false }
  let sms := PduParser.decodePDU command
  if sms.isValidPdu then
    match sms.getPhoneNumberFromAddress with
    | none => none
    | some phoneNumber =>
        match CallService.dialledPort phoneNumber with
        | none => none
        | some port =>
            if phoneNumber = [] then some (service, [.response [cmsErrorSCAddressUnknown]])
            else
              match deliver env ownNumber sms phoneNumber port with
              | none => none
              | some outputs => some (service.sent sms outputs)
  else some (service, [.response [cmsErrorInvalidPDUModeParam]])

/-! ## Which messages are handled -/

def destination (pdu : Text) : Text :=
  ((PduParser.decodePDU pdu).getPhoneNumberFromAddress).getD []

def PortReadable (number : Text) : Prop :=
  (number.length = 11 → Decimal.StartsWithInt (number.drop 7)) ∧
    (number.length = 4 → Decimal.StartsWithInt number)

def IsRemoteNumber (number : Text) : Prop :=
  ∃ port, CallService.dialledPort number = some port ∧ remotePortMin ≤ port ∧
    port ≤ remotePortMax

/-- The port of a valid PDU is readable, and so is the number of the SIM if the
message may be for it. -/
def Sendable (ownNumberReadable : Prop) (pdu : Text) : Prop :=
  (PduParser.decodePDU pdu).isValidPdu = true →
    PortReadable (destination pdu) ∧
      (destination pdu ≠ [] → ¬IsRemoteNumber (destination pdu) → ownNumberReadable)

end SmsService

end Cuttlefish.ModemSimulator
