import Cuttlefish.Confui.Packet

/-! # Confirmation UI messages

The kinds of messages of `common/libs/confui`, how they are put into packets and taken out. -/

namespace Cuttlefish.Confui

inductive ConfUiCmd
  | unknown
  | start
  | stop
  | cliAck
  | cliRespond
  | abort
  | userInputEvent
  | userTouchEvent
  deriving DecidableEq

def ascii (constant : String) : Bytes := bytes constant.toList

/-- The table of `ToDebugString`. Of two entries for a command the first one is kept. -/
def lookUpTab : List (ConfUiCmd × Bytes) :=
  [(.unknown, ascii "kUnknown"),
    (.start, ascii "kStart"),
    (.stop, ascii "kStop"),
    (.cliAck, ascii "kCliAck"),
    (.cliRespond, ascii "kCliRespond"),
    (.abort, ascii "kAbort"),
    (.userInputEvent, ascii "kUserInputEvent"),
    (.userInputEvent, ascii "kUserTouchEvent")]

def ConfUiCmd.toString (cmd : ConfUiCmd) : Bytes := (lookUpTab.lookup cmd).getD (ascii "kUnknown")

def cmds : List (Bytes × ConfUiCmd) :=
  [(ascii "kStart", .start),
    (ascii "kStop", .stop),
    (ascii "kCliAck", .cliAck),
    (ascii "kCliRespond", .cliRespond),
    (ascii "kAbort", .abort),
    (ascii "kUserInputEvent", .userInputEvent),
    (ascii "kUserTouchEvent", .userTouchEvent)]

def toCmd (cmdStr : Bytes) : ConfUiCmd := (cmds.lookup cmdStr).getD .unknown

abbrev UiOption := UInt32

def uiOptionToString (uiOpt : UiOption) : Bytes :=
  bytes (Decimal.print (Decimal.toInt uiOpt.toNat))

def toUiOption (src : Bytes) : Except Fault (Option UiOption) :=
  if isOnlyDigits src = false then .ok none
  else do
    let value ← stoi src
    return some (UInt32.ofNat (value % 4294967296).toNat)

inductive ConfUiMessage
  | start (sessionId promptText extraData locale : Bytes) (uiOpts : List UiOption)
  | ack (sessionId : Bytes) (isSuccess : Bool) (statusMessage : Bytes)
  | cliResponse (sessionId response sign message : Bytes)
  | userSelection (sessionId response : Bytes)
  | userTouch (sessionId : Bytes) (x y : Int32)
  | abort (sessionId : Bytes)
  | stop (sessionId : Bytes)
  deriving DecidableEq

/-! ## Sending -/

def comma : UInt8 := 44

def uiOptsToString (uiOpts : List UiOption) : Bytes :=
  [comma].intercalate (uiOpts.map uiOptionToString)

namespace ConfUiMessage

def type_ : ConfUiMessage → ConfUiCmd
  | start .. => .start
  | ack .. => .cliAck
  | cliResponse .. => .cliRespond
  | userSelection .. => .userInputEvent
  | userTouch .. => .userTouchEvent
  | abort _ => .abort
  | stop _ => .stop

def sessionId : ConfUiMessage → Bytes
  | start sessionId .. | ack sessionId .. | cliResponse sessionId .. | userSelection sessionId _
  | userTouch sessionId .. | abort sessionId | stop sessionId => sessionId

def args : ConfUiMessage → List Bytes
  | start _ promptText extraData locale uiOpts =>
      [promptText, extraData, locale, uiOptsToString uiOpts]
  | ack _ isSuccess statusMessage =>
      [if isSuccess then ascii "success" else ascii "fail", statusMessage]
  | cliResponse _ response sign message => [response, sign, message]
  | userSelection _ response => [response]
  | userTouch _ x y => [bytes (Decimal.print x.toInt), bytes (Decimal.print y.toInt)]
  | abort _ | stop _ => []

def sent (message : ConfUiMessage) : Bytes :=
  payload message.type_.toString message.sessionId message.args

def sendOver (message : ConfUiMessage) : Bytes :=
  writePayload message.type_.toString message.sessionId message.args

end ConfUiMessage

/-! ## Receiving -/

def toAck (packet : ParsedPacket) : Except Fault (Option ConfUiMessage) :=
  match packet.additionalInfo with
  | [success, statusMessage] =>
      .ok (some (.ack packet.sessionId (success = ascii "success") statusMessage))
  | _ => .ok none

def toUiOptions : List Bytes → Except Fault (Option (List UiOption))
  | [] => .ok (some [])
  | token :: tokens => do
      match ← toUiOption token with
      | none => return none
      | some uiOpt =>
          let uiOpts ← toUiOptions tokens
          return uiOpts.map (uiOpt :: ·)

def uiOptionTokens (additionalInfo : List Bytes) : List Bytes :=
  match additionalInfo with
  | [_, _, _, uiOpts] => if uiOpts.isEmpty then [] else uiOpts.splitOn comma
  | _ => []

def toStart (packet : ParsedPacket) : Except Fault (Option ConfUiMessage) :=
  match packet.additionalInfo with
  | promptText :: extraData :: locale :: _ => do
      let uiOpts ← toUiOptions (uiOptionTokens packet.additionalInfo)
      return uiOpts.map (.start packet.sessionId promptText extraData locale ·)
  | _ => .ok none

def toUserSelection (packet : ParsedPacket) : Except Fault (Option ConfUiMessage) :=
  match packet.additionalInfo with
  | [] => .ok none
  | response :: _ => .ok (some (.userSelection packet.sessionId response))

def toUserTouch (packet : ParsedPacket) : Except Fault (Option ConfUiMessage) :=
  match packet.additionalInfo with
  | xText :: yText :: _ => do
      let x ← stoi xText
      let y ← stoi yText
      return some (.userTouch packet.sessionId (Int32.ofInt x) (Int32.ofInt y))
  | _ => .ok none

def toCliResponse (packet : ParsedPacket) : Except Fault (Option ConfUiMessage) :=
  match packet.additionalInfo with
  | response :: sign :: message :: _ =>
      .ok (some (.cliResponse packet.sessionId response sign message))
  | _ => .ok none

def toConfUiMessage (packet : ParsedPacket) : Except Fault (Option ConfUiMessage) :=
  match toCmd packet.type_ with
  | .start => toStart packet
  | .cliAck => toAck packet
  | .cliRespond => toCliResponse packet
  | .userInputEvent => toUserSelection packet
  | .userTouchEvent => toUserTouch packet
  | .abort => .ok (some (.abort packet.sessionId))
  | .stop => .ok (some (.stop packet.sessionId))
  | .unknown => .ok none

def recvConfUiMsg (stream : Bytes) : Except Fault (Option ConfUiMessage) := do
  match ← readPayload stream with
  | none => return none
  | some packet => toConfUiMessage packet

end Cuttlefish.Confui
