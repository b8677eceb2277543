import Cuttlefish.ModemSimulator.Dispatch

/-! # Malformed commands

The parser returns -1 or an empty text where it does not find a number or a quoted
string. A command is malformed if that happens to an argument that its handler
takes and has no default for. Text that a handler does not look at is not judged,
nor are the messages of other modems, which are never answered, and what is read
with `stoi`, which throws. -/

namespace Cuttlefish.ModemSimulator

open CommandParser

/-! ## Arguments -/

/-- `GetNextInt` and the two forms of `GetNextStr`. -/
inductive Argument
  | number
  | quoted
  | text
  deriving DecidableEq, Repr

def hasQuoted (cmd : Text) : Bool := cmd.contains '"' && (afterFirst '"' cmd).contains '"'

/-- What stands behind the argument; `none` where the parser fails. -/
def Argument.read (cmd : Text) : Argument → Option Text
  | .number => (Decimal.strtol (getNextStrUntil ',' cmd).1).map fun _ => (getNextInt cmd).2
  | .quoted => if hasQuoted cmd then some (getNextStr cmd).2 else none
  | .text => some (getNextStrUntil ',' cmd).2

def readNeeded : List Argument → Text → Option Text
  | [], cmd => some cmd
  | argument :: rest, cmd =>
      match argument.read cmd with
      | none => none
      | some behind => readNeeded rest behind

/-- Arguments that may be left out, but have to be readable if they are there. -/
def readFurther : List Argument → Text → Bool
  | [], _ => true
  | argument :: rest, cmd =>
      let (part, behind) := getNextStrUntil ',' cmd
      if part.isEmpty then readFurther rest behind
      else
        match argument.read cmd with
        | none => false
        | some behind => readFurther rest behind

/-- The text that a handler takes apart, the arguments it needs and those that may
be left out. -/
structure Arguments where
  text : Text
  needed : List Argument
  further : List Argument
  deriving DecidableEq, Repr

def Arguments.wellFormed (arguments : Arguments) : Bool :=
  match readNeeded arguments.needed arguments.text with
  | none => false
  | some rest => readFurther arguments.further rest

def queries : List String :=
  ["AT+CCSS?", "AT+WRMP?", "AT+CREG?", "AT+CGREG?", "AT+CEREG?", "AT+CGDATA", "AT+CGCONTRDP",
    "AT+CMUT?", "AT+WSOS?", "AT+CSCB?", "AT+CLIR?"]

namespace Handler

/-- `AT+CCSS=` and `AT+WRMP=` are judged by what stands behind the prefix, which
their handlers do not skip. -/
def arguments (command : Text) (handler : Handler) : Arguments :=
  let cmd := skipPrefix command
  match handler with
  | .simIo =>
      -- GET RESPONSE and STATUS need no parameters of the file.
      if (getNextInt cmd).1 ∈ [192, 242] then ⟨cmd, [.number, .number], []⟩
      else ⟨cmd, [.number, .number, .number, .number, .number], [.text, .quoted]⟩
  | .csimIo => ⟨skipComma cmd, [.quoted], []⟩
  | .facilityLock =>
      -- Only two facilities have a password.
      let (lock, rest) := getNextStr command
      if lock ∈ ["SC".toList, "FD".toList] ∧ (getNextInt rest).1 ∈ [0, 1] then
        ⟨command, [.quoted, .number, .quoted], []⟩
      else ⟨command, [.quoted, .number], []⟩
  | .changePassword => ⟨cmd, [.quoted, .quoted, .quoted], []⟩
  | .queryRemainTimes | .simAuthentication => ⟨cmd, [.quoted], []⟩
  | .closeLogicalChannel | .cdmaSubscriptionSource | .cdmaRoamingPreference | .radioPower
  | .voiceNetworkRegistration | .dataNetworkRegistration | .readDynamicParam | .mute
  | .emergencyMode | .deleteSmsOnSim | .clir => ⟨cmd, [.number], []⟩
  | .transmitLogicalChannel => ⟨cmd, [.number, .number], []⟩
  | .setNetworkSelectionMode =>
      let mode := (getNextInt cmd).1
      -- The operator shall be present where it is selected manually.
      if mode = 1 then ⟨cmd, [.number, .quoted], [.number]⟩
      else if mode = 4 then ⟨cmd, [.number, .quoted], []⟩
      else ⟨cmd, [.number], []⟩
  | .setPreferredNetworkType => ⟨cmd, [.number, .quoted], []⟩
  | .pdpContext => ⟨cmd, [], [.number]⟩
  | .enterDataState => ⟨skipComma cmd, [.number], []⟩
  | .writeSMSToSim => ⟨skipComma cmd, [], [.number]⟩
  | .broadcastConfig => ⟨cmd, [], [.number, .quoted, .quoted]⟩
  | .setSmscAddress => ⟨cmd, [.quoted], [.number]⟩
  | .callWaiting => ⟨skipComma cmd, [], [.number, .number]⟩
  | .callForward => ⟨cmd, [.number, .number], [.number, .number, .quoted, .number]⟩
  | _ => ⟨cmd, [], []⟩

/-- A dialled number has to consist of digits. -/
def Malformed (command : Text) : Handler → Prop
  | .dial =>
      ∃ number ∈ CallService.dialledNumber (skipPrefixAT command),
        number.1.all Decimal.isDigit = false
  | handler =>
      skipPrefix command ∉ queries.map String.toList ∧
        (handler.arguments command).wellFormed = false

end Handler

/-! ## What the handlers read instead -/

def errorCodes : List String :=
  [cmeErrorOperationNotAllowed, cmeErrorOperationNotSupported, cmeErrorSimNotInserted,
    cmeErrorSimBusy, cmeErrorIncorrectPassword, cmeErrorMemoryFull, cmeErrorInvalidIndex,
    cmeErrorNotFound, cmeErrorNoNetworkService, cmeErrorNetworkNotAllowedEmergencyCallsOnly,
    cmeErrorInCorrectParameters, cmeErrorFixedDialNumberOnlyAllowed, cmsErrorInvalidPDUModeParam,
    cmsErrorSCAddressUnknown, "ERROR"]

/-- The last line of the response is the code of an error. -/
def Refused (responses : List String) : Prop := ∃ line ∈ responses.getLast?, line ∈ errorCodes

namespace SimService

def WrongPassword (service : SimService) (lock password : Text) : Prop :=
  lock = "SC".toList ∧ (service.pin1Status.verifyPIN password).1 = false ∨
    lock = "FD".toList ∧ (service.pin2Status.verifyPIN password).1 = false

end SimService

namespace SimCard

variable {Element : Type} (api : Xml.DocumentApi Element) (card : SimCard Element)

end SimCard

namespace CallService

end CallService

end Cuttlefish.ModemSimulator
