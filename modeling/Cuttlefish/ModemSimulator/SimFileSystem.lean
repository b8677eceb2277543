import Cuttlefish.Foundation.XmlPointer
import Cuttlefish.ModemSimulator.PduParser
import Cuttlefish.ModemSimulator.SimService

/-! # The files of the SIM

The ICC profile of `SimService` as a file system: `AT+CRSM`, the logical
channels of `AT+CSIM`, `AT+CCHO`, `AT+CCHC` and `AT+CGLA`, and the records with
phone numbers. The document is read through the operations of the XML library.
A handler that throws, or passes a null pointer on as a text, returns `none`. -/

namespace Cuttlefish.ModemSimulator

open Xml

def cmeErrorMemoryFull : String := "+CME ERROR: 20"
def cmeErrorInvalidIndex : String := "+CME ERROR: 21"
def cmeErrorNotFound : String := "+CME ERROR: 22"

/-! ## Paths -/

namespace SimFileSystem

def mfSim : Text := "3F00".toList
def dfTelecom : Text := "7F10".toList
def dfPhonebook : Text := "5F3A".toList
def dfGraphics : Text := "5F50".toList
def dfAdf : Text := "7FFF".toList

/-! `EFId`, the files that the paths below and the handlers name. -/

def efAdn : Int := 0x6F3A
def efFdn : Int := 0x6F3B
def efMsisdn : Int := 0x6F40
def efPbr : Int := 0x4F30

def telecomFiles : List Int :=
  [efAdn, efFdn, efMsisdn, 0x6F49, 0x6F4A, 0x6F4B, 0x6F4C, 0x6FE5]

def masterFiles : List Int := [0x2FE2, 0x2F05]

def efImg : Int := 0x4F20

def getCommonIccEFPath (efid : Int) : Text :=
  if efid ∈ telecomFiles then mfSim ++ dfTelecom
  else if efid ∈ masterFiles then mfSim
  else if efid = efPbr then mfSim ++ dfTelecom ++ dfPhonebook
  else if efid = efImg then mfSim ++ dfTelecom ++ dfGraphics
  else []

def usimFiles : List Int :=
  [0x6F3C, 0x6F4E, 0x6FC8, 0x6FCA, 0x6FC9, 0x6F46, 0x6FAD, 0x6FC7, 0x6FC5, 0x6FC6, 0x6FCD,
    0x6F38, 0x6FCB, 0x6F17, 0x6F11, 0x6F13, 0x6F14, 0x6F18,
    efFdn, 0x6F49, 0x6F4C, efMsisdn, 0x6F4B, 0x6F16, 0x6F15, 0x6F3E, 0x6F3F,
    0x6F05, 0x6F60, 0x6F61, 0x6F62, 0x6FD9, 0x6F7B, 0x6FDC, 0x6F31]

def getUsimEFPath (efid : Int) : Text :=
  if efid ∈ usimFiles then mfSim ++ dfAdf
  else if efid = efPbr then mfSim ++ dfTelecom ++ dfPhonebook
  else if getCommonIccEFPath efid = [] then mfSim ++ dfTelecom ++ dfPhonebook
  else getCommonIccEFPath efid

def pathPieces : Text → List Text
  | first :: second :: third :: fourth :: rest =>
      [first, second, third, fourth] :: pathPieces rest
  | [] => []
  | rest => [rest]

variable {Element : Type} (api : DocumentApi Element)

def followPath (parent : Pointer Element) (path : Text) : Option (Pointer Element) :=
  (pathPieces path).foldlM (fun parent piece => api.findAttribute parent "path" piece) parent

def findFile (document : Element) (path id : Text) : Option (Pointer Element) :=
  match followPath api (DocumentApi.root document) path with
  | none => none
  | some parent => api.findAttribute parent "id" id

end SimFileSystem

open SimFileSystem

/-! ## State -/

structure LogicalChannel where
  dfName : Text
  isOpen : Bool
  sessionId : Nat
  deriving DecidableEq, Repr

/-- `SimService` with its profile: the PIN handling, the root of the document if
one was loaded, and the logical channels. -/
structure SimCard (Element : Type) where
  pins : SimService
  profile : Option Element
  logicalChannels : List LogicalChannel
  lastFileId : Text

namespace SimCard

variable {Element : Type} (api : DocumentApi Element)

/-! ## Reading and updating files -/

/-- The fields of `AT+CRSM`, numbers in hexadecimal digits. -/
structure SimIoRequest where
  c : Text
  id : Text
  p1 : Text
  p2 : Text
  p3 : Text
  data : Text
  path : Text
  deriving DecidableEq, Repr

namespace SimIoRequest

open CommandParser in
def parse (cmd : Text) : SimIoRequest :=
  let (c, cmd) := getNextStrDeciToHex cmd
  let (id, cmd) := getNextStrDeciToHex cmd
  let (p1, cmd) := getNextStrDeciToHex cmd
  let (p2, cmd) := getNextStrDeciToHex cmd
  let (p3, cmd) := getNextStrDeciToHex cmd
  let (data, cmd) := getNextStrUntil ',' cmd
  let (path, _) := getNextStr cmd
  { c, id, p1, p2, p3, data, path }

def isUpdate (request : SimIoRequest) : Bool :=
  request.c == "DC".toList || request.c == "D6".toList

def location (request : SimIoRequest) (fileid : Int) : Text × Text :=
  let path := if request.path = [] then getUsimEFPath fileid else request.path
  if fileid = efAdn ∧ path = getUsimEFPath fileid then
    (mfSim ++ dfTelecom ++ dfPhonebook, "4F3A".toList)
  else (path, request.id)

def allows (final : Pointer Element) (name : String) (value : Text) : Bool :=
  match api.attributeValue final.element name with
  | none => true
  | some present => present == value

def matchesRecord (request : SimIoRequest) (final : Pointer Element) : Bool :=
  (request.isUpdate || (allows api final "cmd" request.c && allows api final "data" request.data))
    && api.hasAttribute final "p1" request.p1 && api.hasAttribute final "p2" request.p2
    && api.hasAttribute final "p3" request.p3

def findRecord (request : SimIoRequest) (document : Element) (fileid : Int) :
    Option (Pointer Element) :=
  let (path, id) := request.location fileid
  match findFile api document path id with
  | none => none
  | some ef => (api.childrenNamed ef "SIMIO").find? (request.matchesRecord api)

end SimIoRequest

def statusRequest : Text := "242,0,0,0,0".toList

def statusResponse : String :=
  "+CRSM: 144,0,62338202782183023F00A50C80016187010183040007DBF08A01058B062F0601020002C60C90016083010183010A83010D8102FFFF"

def fileNotFound : List String := ["+CRSM: 106,130", "OK"]

/-- `AT+CRSM=`. -/
def handleSIM_IO (card : SimCard Element) (command : Text) :
    Option (SimCard Element × List String) :=
  let cmd := CommandParser.skipPrefix command
  if cmd = statusRequest then some (card, [statusResponse, "OK"])
  else
    let request := SimIoRequest.parse cmd
    match card.profile with
    | none => some (card, [cmeErrorOperationNotAllowed])
    | some document =>
        match Hexadecimal.stoi request.id with
        | none => none
        | some fileid =>
            match request.findRecord api document fileid with
            | none => some (card, fileNotFound)
            | some final =>
                if request.isUpdate then
                  let temp := "144,0,".toList ++ request.data
                  some ({ card with profile := some (api.setText document final temp) },
                    ["+CRSM: 144,0", "OK"])
                else
                  match api.text final with
                  | none => none
                  | some text => some (card, ["+CRSM: " ++ String.ofList text, "OK"])

def answerText (card : SimCard Element) (ef : Option (Pointer Element)) (name : String) :
    Option (SimCard Element × List String) :=
  match ef.bind fun ef => (api.childrenNamed ef name).head? with
  | none => some (card, [cmeErrorNotFound])
  | some final =>
      match api.text final with
      | none => none
      | some text => some (card, [String.ofList text, "OK"])

/-- `AT+CIMI`. -/
def handleGetIMSI (card : SimCard Element) : Option (SimCard Element × List String) :=
  match card.profile with
  | none => some (card, [cmeErrorOperationNotAllowed])
  | some document => card.answerText api (findFile api document (mfSim ++ dfAdf) "6F07".toList) "CIMI"

/-- `AT+CICCID`. -/
def handleGetIccId (card : SimCard Element) : Option (SimCard Element × List String) :=
  match card.profile with
  | none => some (card, [cmeErrorOperationNotAllowed])
  | some document => card.answerText api (findFile api document mfSim "2FE2".toList) "CCID"

/-! ## Logical channels -/

def firstClosed (card : SimCard Element) : Option Nat :=
  card.logicalChannels.findIdx? fun channel => !channel.isOpen

def openChannel (card : SimCard Element) (index : Nat) (dfName : Text) : SimCard Element :=
  { card with logicalChannels := card.logicalChannels.modify index fun channel =>
      { channel with isOpen := true, dfName } }

/-- Open the first closed channel if its session id is the given one; `none`
where `stoi` throws, which is called only if there is a closed channel. -/
def openCsim (card : SimCard Element) (id : Text) : Option (SimCard Element) :=
  match card.firstClosed with
  | none => some card
  | some index =>
      match Decimal.stoi id with
      | none => none
      | some session =>
          let sessionId := fun channel : LogicalChannel => (channel.sessionId : Int)
          if (card.logicalChannels[index]?).map sessionId = some session then
            some (card.openChannel index "CSIM".toList)
          else some card

def findApplication (document : Element) (aid : Text) : Option (Pointer Element) :=
  api.findAttribute (DocumentApi.root document) "aid" aid

open CommandParser in
/-- `AT+CSIM=`. -/
def handleCSIM_IO (card : SimCard Element) (command : Text) :
    Option (SimCard Element × List String) :=
  let data := (getNextStr (skipComma (skipPrefix command))).1
  match card.profile with
  | none => some (card, [cmeErrorOperationNotAllowed])
  | some document =>
      match findApplication api document "CSIM".toList with
      | none => some (card, [cmeErrorNotFound])
      | some df =>
          if 10 < data.length then some (card, ["+CSIM: 4,9000", "OK"])
          else
            match api.findAttribute df "cmd" data with
            | none => some (card, [cmeErrorNotFound])
            | some final =>
                match CxxString.substrCount data (data.length - 2 : Int) 2 with
                | none => none
                | some id =>
                    match card.openCsim id with
                    | none => none
                    | some card =>
                        match api.text final with
                        | none => none
                        | some text => some (card, ["+CSIM: " ++ String.ofList text, "OK"])

/-- `AT+CCHO=`. -/
def handleOpenLogicalChannel (card : SimCard Element) (command : Text) :
    SimCard Element × List String :=
  let cmd := CommandParser.skipPrefix command
  if cmd = [] then (card, [cmeErrorInCorrectParameters])
  else
    match card.profile with
    | none => (card, [cmeErrorOperationNotAllowed])
    | some document =>
        match findApplication api document cmd with
        | none => (card, [cmeErrorNotFound])
        | some _ =>
            match card.firstClosed with
            | none => (card, [cmeErrorMemoryFull])
            | some index =>
                let session := (card.logicalChannels[index]?).map LogicalChannel.sessionId
                (card.openChannel index cmd,
                  [String.ofList (Decimal.print (session.getD 0)), "OK"])

/-- `AT+CCHC=`. -/
def handleCloseLogicalChannel (card : SimCard Element) (command : Text) :
    SimCard Element × List String :=
  let sessionId := (CommandParser.getNextInt (CommandParser.skipPrefix command)).1
  match card.logicalChannels.findIdx? fun channel => channel.sessionId = sessionId with
  | none => (card, [cmeErrorNotFound])
  | some index =>
      if (card.logicalChannels[index]?).map LogicalChannel.isOpen = some true then
        ({ card with logicalChannels := card.logicalChannels.modify index fun channel =>
            { channel with isOpen := false, dfName := [] } }, ["+CCHC", "OK"])
      else (card, [cmeErrorNotFound])

def transmit (card : SimCard Element) (df : Pointer Element) (cmd : Text) :
    Option (SimCard Element × List String) :=
  match api.findAttribute df "cmd" cmd with
  | none => some (card, [cmeErrorNotFound])
  | some final =>
      match api.text final with
      | none => none
      | some text => some (card, ["+CGLA: " ++ String.ofList text, "OK"])

def selectFile (card : SimCard Element) (cmd : Text) : Option (SimCard Element) :=
  match CxxString.substrCount cmd 2 2 with
  | none => none
  | some instruction =>
      if instruction = "a4".toList then
        match CxxString.substrCount cmd (cmd.length - 4 : Int) 4 with
        | none => none
        | some lastFileId => some { card with lastFileId }
      else some card

open CommandParser in
/-- `AT+CGLA=`. -/
def handleTransmitLogicalChannel (card : SimCard Element) (command : Text) :
    Option (SimCard Element × List String) :=
  let (sessionId, cmd) := getNextInt (skipPrefix command)
  let (length, cmd) := getNextInt cmd
  if (cmd.length : Int) ≠ length then some (card, [cmeErrorInCorrectParameters])
  else
    match card.logicalChannels.find? fun channel =>
        decide (channel.sessionId = sessionId) && channel.isOpen with
    | none => some (card, [cmeErrorInvalidIndex])
    | some channel =>
        match card.profile with
        | none => some (card, [cmeErrorOperationNotAllowed])
        | some document =>
            match findApplication api document channel.dfName with
            | none => some (card, [cmeErrorNotFound])
            | some df =>
                if channel.dfName = "CSIM".toList then card.transmit api df cmd
                else
                  match card.selectFile cmd with
                  | none => none
                  | some card =>
                      match api.findAttribute df "id" card.lastFileId with
                      | none => some (card, [cmeErrorNotFound])
                      | some file => card.transmit api file cmd

/-! ## Which commands are handled -/

def HasText (final : Option (Pointer Element)) : Prop :=
  ∀ pointer ∈ final, (api.text pointer).isSome = true

open CommandParser in
def fileId (cmd : Text) : Int := (getNextInt (getNextInt cmd).2).1

def SimIoHandled (card : SimCard Element) (command : Text) : Prop :=
  let cmd := CommandParser.skipPrefix command
  cmd ≠ statusRequest → ∀ document ∈ card.profile,
    0 ≤ fileId cmd ∧ ((SimIoRequest.parse cmd).isUpdate = false →
      HasText api ((SimIoRequest.parse cmd).findRecord api document (fileId cmd)))

def ImsiHandled (card : SimCard Element) : Prop :=
  ∀ document ∈ card.profile,
    HasText api ((findFile api document (mfSim ++ dfAdf) "6F07".toList).bind fun ef =>
      (api.childrenNamed ef "CIMI").head?)

def IccIdHandled (card : SimCard Element) : Prop :=
  ∀ document ∈ card.profile,
    HasText api ((findFile api document mfSim "2FE2".toList).bind fun ef =>
      (api.childrenNamed ef "CCID").head?)

open CommandParser in
def csimData (command : Text) : Text := (getNextStr (skipComma (skipPrefix command))).1

/-- The record that `AT+CSIM=` reads has a text, and its command ends in a number
of two characters, which matters only while a channel is closed. -/
def CsimHandled (card : SimCard Element) (command : Text) : Prop :=
  ∀ document ∈ card.profile, ∀ df ∈ findApplication api document "CSIM".toList,
    (csimData command).length ≤ 10 → ∀ final ∈ api.findAttribute df "cmd" (csimData command),
      2 ≤ (csimData command).length ∧
        (card.firstClosed.isSome = true →
          Decimal.StartsWithInt (CxxString.lastChars (csimData command) 2)) ∧
        HasText api (some final)

def fileFor (card : SimCard Element) (cmd : Text) : Text :=
  if (cmd.drop 2).take 2 = "a4".toList then CxxString.lastChars cmd 4 else card.lastFileId

open CommandParser in
/-- `AT+CGLA=` names an open channel of an application with a command of the
right length; then the command has two characters, unless the application is
CSIM, and the answer has a text. -/
def TransmitHandled (card : SimCard Element) (command : Text) : Prop :=
  let (sessionId, cmd) := getNextInt (skipPrefix command)
  let (length, cmd) := getNextInt cmd
  (cmd.length : Int) = length →
    ∀ channel ∈ card.logicalChannels.find? fun channel =>
      decide (channel.sessionId = sessionId) && channel.isOpen,
    ∀ document ∈ card.profile, ∀ df ∈ findApplication api document channel.dfName,
      if channel.dfName = "CSIM".toList then HasText api (api.findAttribute df "cmd" cmd)
      else 2 ≤ cmd.length ∧ ∀ file ∈ api.findAttribute df "id" (card.fileFor cmd),
        HasText api (api.findAttribute file "cmd" cmd)

end SimCard

end Cuttlefish.ModemSimulator
