import Cuttlefish.Foundation.Run
import Cuttlefish.ModemSimulator.CommandSyntax

/-! # Commands that end the simulator

Nothing catches what a handler throws, so a command on which `DispatchCommand`
does not return ends the process. The condition under which it returns, and answers
a malformed command with an error, is stated on the text of the command and the
state before it, handler by handler. -/

namespace Cuttlefish.ModemSimulator

open Xml

/-! ## The selected handler -/

namespace CommandHandler

def takes (command : Text) (entry : CommandHandler) : Bool :=
  match entry.matchMode with
  | .partialMatch =>
      decide ((command.drop 2).take entry.commandPrefix.length = entry.commandPrefix)
  | .fullMatch => decide (command.drop 2 = entry.commandPrefix)

end CommandHandler

def selectedHandler (command : Text) : Option Handler :=
  (modemServices.flatten.find? (CommandHandler.takes command)).map CommandHandler.handler

namespace CallService

/-- The first character behind `AT+CHLD=` is a digit, and what follows it, if
anything, starts with a number. -/
def HangupHandled (command : Text) : Prop :=
  let action := CommandParser.skipPrefix command
  Decimal.StartsWithInt (action.take 1) ∧
    (1 < action.length → Decimal.StartsWithInt (action.drop 1))

end CallService

/-! ## The condition -/

def NumberFollows (marker : String) (command : Text) : Prop :=
  marker.length ≤ command.length ∧ Decimal.StartsWithInt (command.drop marker.length)

def newPhoneNumber (command : Text) : Text :=
  (CommandParser.getNextStrUntil ' ' (CommandParser.skipWhiteSpace command)).1

namespace Simulator

variable {Element : Type} (api : DocumentApi Element)

/-- The records up to the dialled number are readable, if it is looked up among
the fixed dial numbers. -/
def DialHandled (simulator : Simulator Element) (env : Env) (command : Text) : Prop :=
  ∀ number ∈ fixedDialQuery env.registration simulator.sim.isFDNEnabled command,
    ∀ document ∈ simulator.sim.profile,
      SimCard.ReadableUpTo api env.outside number (SimCard.fixedDialRecords api document)

/-- What a handler needs of the command and the state to return. -/
def Handled (simulator : Simulator Element) (env : Env) (command : Text) : Handler → Prop
  | .simIo => simulator.sim.SimIoHandled api command
  | .csimIo => simulator.sim.CsimHandled api command
  | .getIMSI => simulator.sim.ImsiHandled api
  | .getIccId => simulator.sim.IccIdHandled api
  | .transmitLogicalChannel => simulator.sim.TransmitHandled api command
  | .phoneNumberUpdate => simulator.sim.OwnNumberWritable api (newPhoneNumber command)
  | .setPreferredNetworkType => Hexadecimal.StartsWithInt (preferredText command)
  | .receiveRemoteCTEC => NumberFollows "AT+REMOTECTEC: " command
  | .receiveRemoteSignal => NumberFollows "AT+REMOTESIGNAL:" command
  | .receiveRemoteVoiceDataReg => NumberFollows "AT+REMOTEREG:" command
  | .dial => simulator.DialHandled api env command
  | .hangup => CallService.HangupHandled command
  | .reportStkServiceIsRunning =>
      ∀ document ∈ simulator.sim.profile, (StkService.setupMenu api document).isSome = true
  | .sendEnvelope => StkService.HasMenuId command
  | .sendTerminalResponseToSim => StkService.HasMenuId command
  | _ => True

/-- What a command needs for `DispatchCommand` to return: a PDU that can be sent,
or else two characters and what the handler that takes it needs. -/
def Survives (simulator : Simulator Element) (env : Env) (command : Text) : Prop :=
  if simulator.sms.isWaitingSmsPdu then
    SmsService.Sendable (simulator.sim.OwnNumberReadable api env.outside) command
  else if simulator.sms.isWaitingSmsToSim then True
  else
    2 ≤ command.length ∧
      ∀ handler ∈ selectedHandler command, simulator.Handled api env command handler

/-! ## Commands that are handled -/

/-- The handlers that answer a malformed command with an error, and what they need
of the state for that. -/
def Refuses (simulator : Simulator Element) (network : NetworkState) (command : Text) :
    Handler → Prop
  | .simIo => simulator.sim.profile = none
  | .facilityLock =>
      simulator.sim.pins.facilityLock.lookup (CommandParser.getNextStr command).1 = none ∨
        LockMode.ofInt (CommandParser.getNextInt (CommandParser.getNextStr command).2).1 = none ∨
        LockMode.ofInt (CommandParser.getNextInt (CommandParser.getNextStr command).2).1 ≠
            some .query ∧
          simulator.sim.pins.WrongPassword (CommandParser.getNextStr command).1
            (CommandParser.getNextStr
              (CommandParser.getNextInt (CommandParser.getNextStr command).2).2).1
  | .setNetworkSelectionMode =>
      let mode := CommandParser.getNextInt (CommandParser.skipPrefix command)
      mode.1 ∉ [0, 2, 4] ∧
        (mode.1 = 1 →
          (CommandParser.getNextStr (CommandParser.skipPrefix mode.2)).1 ∉ network.operatorList)
  | .enterDataState | .readDynamicParam => -1 ∉ network.activeContexts
  | .deleteSmsOnSim => simulator.sms.messagesOnSimCard.find (-1) = none
  | .callForward =>
      (CommandParser.getNextInt (CommandParser.skipPrefix command)).1 ∉ [0, 1, 2, 3, 4]
  | .cdmaSubscriptionSource | .cdmaRoamingPreference | .simAuthentication
  | .setPreferredNetworkType | .pdpContext | .writeSMSToSim | .broadcastConfig
  | .setSmscAddress | .clir | .callWaiting => False
  | _ => True

/-- A PDU that is not valid, or a command that its handler cannot read. -/
def Malformed (simulator : Simulator Element) (command : Text) : Prop :=
  if simulator.isWaitingPdu then (PduParser.decodePDU command).isValidPdu = false
  else ∃ handler ∈ selectedHandler command, handler.Malformed command

/-- A PDU is checked before it is sent, but not before it is stored. -/
def AnswersMalformed (simulator : Simulator Element) (env : Env) (command : Text) : Prop :=
  if simulator.isWaitingPdu then
    (PduParser.decodePDU command).isValidPdu = false → simulator.sms.isWaitingSmsPdu = true
  else
    ∀ handler ∈ selectedHandler command, handler.Malformed command →
      simulator.Refuses env.network command handler

def Safe (simulator : Simulator Element) (env : Env) (command : Text) : Prop :=
  simulator.Survives api env command ∧ simulator.AnswersMalformed env command

/-- What happens to the simulator: a command is dispatched, or the state becomes
any other one, by a callback, a connection or a saved profile. -/
inductive Input (Element : Type)
  | command (env : Env) (text : Text)
  | elsewhere (after : Simulator Element)

def step (simulator : Simulator Element) : Input Element → Option (Simulator Element)
  | .command env text => (simulator.dispatchCommand api env text).map Prod.fst
  | .elsewhere after => some after

/-- A small profile: the number of the SIM and a menu. -/
def sampleProfile : Tag :=
  .mk "IccProfile" [] none
    [.mk "MF" [("path", "3F00".toList)] none
      [.mk "ADF" [("path", "7FFF".toList)] none
        [.mk "EF" [("id", "6F40".toList)] none
          [.mk "SIMIO" [("cmd", "B2".toList), ("p1", "1".toList), ("p2", "4".toList),
              ("p3", "1C".toList)]
            (some "144,0,000000000000000000000000000007915155214365F7FFFFFFFFFFFF".toList) []]]],
      .mk "SETUPMENU" [("text", "D038".toList)] none []]

end Simulator

end Cuttlefish.ModemSimulator
