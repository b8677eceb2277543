import Cuttlefish.ModemSimulator.SimFileSystem

/-! # STK service

`StkService` of `host/commands/modem_simulator`: the menus of the SIM
application toolkit, which stand in the ICC profile. The responses are the same
for every command; what is modelled is the state and what is sent unsolicited.
A handler that throws or uses a null pointer returns `none`. -/

namespace Cuttlefish.ModemSimulator

open Xml

structure StkService where
  currentSelectItemMenuIds : List Text
  deriving DecidableEq, Repr

namespace StkService

variable {Element : Type} (api : DocumentApi Element)

def attributeText (pointer : Pointer Element) (name : String) : String :=
  String.ofList ((api.attributeValue pointer.element name).getD [])

def setupMenu (document : Element) : Option (Pointer Element) :=
  (api.childrenNamed (DocumentApi.root document) "SETUPMENU").head?

def selectItem (menu : Pointer Element) (menuId : Text) : Option (Pointer Element) :=
  (api.childrenNamed menu "SELECTITEM").find? fun item => api.hasAttribute item "menuId" menuId

/-- The last two characters of the quoted string; `none` where `substr`
throws. -/
def parseMenuId (command : Text) : Option Text :=
  let data := (CommandParser.getNextStr (CommandParser.skipPrefix command)).1
  CxxString.substr data (data.length - 2 : Int)

def handleReportStkServiceIsRunning (profile : Option Element) : Option (List String) :=
  match profile with
  | none => some []
  | some document =>
      match setupMenu api document with
      | none => none
      | some menu => some ["+CUSATP:" ++ attributeText api menu "text"]

def enter (service : StkService) (item : Pointer Element) (menuId : Text) : StkService :=
  if api.hasAttribute item "cmd" "24".toList then
    { service with
      currentSelectItemMenuIds := service.currentSelectItemMenuIds ++ [menuId] }
  else service

/-- `AT+CUSATE=`. -/
def handleSendEnvelope (service : StkService) (profile : Option Element) (command : Text) :
    Option (StkService × List String) :=
  match parseMenuId command with
  | none => none
  | some menuId =>
      match (profile.bind (setupMenu api)).bind fun menu => selectItem api menu menuId with
      | none => some (service, [])
      | some item =>
          some (service.enter api item menuId, ["+CUSATP:" ++ attributeText api item "text"])

def getCurrentSelectItem (service : StkService) (profile : Option Element) :
    Option (Pointer Element) :=
  match profile.bind (setupMenu api) with
  | none => none
  | some menu =>
      if service.currentSelectItemMenuIds = [] then none
      else service.currentSelectItemMenuIds.foldlM (selectItem api) menu

def endSession : StkService × List String := (⟨[]⟩, ["+CUSATEND"])

def proactive (item : Pointer Element) : List String :=
  match api.attributeValue item.element "text" with
  | none => []
  | some text => ["+CUSATP: " ++ String.ofList text]

def moveBackward (service : StkService) (profile : Option Element) :
    Option (StkService × List String) :=
  let service : StkService := ⟨service.currentSelectItemMenuIds.dropLast⟩
  if service.currentSelectItemMenuIds = [] then some (service, ["+CUSATEND"])
  else
    match service.getCurrentSelectItem api profile with
    | none => none
    | some item => some (service, proactive api item)

def respond (service : StkService) (profile : Option Element) (item : Pointer Element)
    (menuId : Text) : Option (StkService × List String) :=
  if menuId = "11".toList then service.moveBackward api profile
  else if menuId = "00".toList then some (service, proactive api item)
  else
    match api.findAttribute item "menuId" menuId with
    | none => some endSession
    | some final =>
        some (service.enter api final menuId, ["+CUSATP:" ++ attributeText api final "text"])

/-- `AT+CUSATT=`. -/
def handleSendTerminalResponseToSim (service : StkService) (profile : Option Element)
    (command : Text) : Option (StkService × List String) :=
  match parseMenuId command with
  | none => none
  | some menuId =>
      if menuId = "10".toList ∨ menuId = "12".toList then some endSession
      else
        match service.getCurrentSelectItem api profile with
        | none => some endSession
        | some item => service.respond api profile item menuId

/-! ## Which commands are handled -/

def HasMenuId (command : Text) : Prop :=
  2 ≤ (CommandParser.getNextStr (CommandParser.skipPrefix command)).1.length

end StkService

end Cuttlefish.ModemSimulator
