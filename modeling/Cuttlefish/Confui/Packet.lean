import Cuttlefish.Foundation.Bytes
import Cuttlefish.Foundation.Decimal
import Cuttlefish.Foundation.LittleEndian
import Mathlib.Algebra.GroupWithZero.Nat

/-! # Confirmation UI packets

The packets of `common/libs/confui`: a length, and then a header of texts with colons between
them in front of items of raw bytes. -/

namespace Cuttlefish.Confui

/-- What ends the receiving process, or is undefined. -/
inductive Fault
  | checkFailed
  | outOfRange
  | overflow
  | exception
  deriving DecidableEq

theorem ok_bind {First Second : Type} (value : First) (next : First → Except Fault Second) :
    (Except.ok value >>= next) = next value := rfl

def text (bytes : Bytes) : Text := bytes.map fun byte => Char.ofNat byte.toNat

def bytes (text : Text) : Bytes := text.map fun char => UInt8.ofNat char.toNat

def colon : UInt8 := 58

structure ParsedPacket where
  sessionId : Bytes
  type_ : Bytes
  additionalInfo : List Bytes
  deriving DecidableEq

def kMaxPayloadLength : Nat := 10000

/-! ## Sending -/

def printLength (length : Nat) : Bytes := bytes (Decimal.print (Decimal.toInt length))

def sizeHeader (args : List Bytes) : Bytes :=
  args.flatMap fun arg => printLength arg.length ++ [colon]

def payload (cmdStr sessionId : Bytes) (args : List Bytes) : Bytes :=
  sessionId ++ [colon] ++ cmdStr ++ [colon] ++ bytes (Decimal.print args.length) ++ [colon] ++
    sizeHeader args ++ args.flatten

def writePayload (cmdStr sessionId : Bytes) (args : List Bytes) : Bytes :=
  LittleEndian.encode 4 ((payload cmdStr sessionId args).length % 4294967296) ++
    payload cmdStr sessionId args

/-! ## Receiving -/

def isOnlyDigits (src : Bytes) : Bool := (text src).all Decimal.isDigit

def stoi (src : Bytes) : Except Fault Int :=
  match Decimal.stoi (text src) with
  | none => .error .exception
  | some value => .ok value

def intAdd (left right : Int) : Except Fault Int :=
  if Decimal.FitsInt (left + right) then .ok (left + right) else .error .overflow

/-- `ReadRawData` from everything the peer sends until it closes. -/
def readRawData (stream : Bytes) : Option Bytes :=
  if stream.length < 4 then none
  else
    let payloadLength := LittleEndian.decode (stream.take 4)
    if payloadLength = 0 then some []
    else if kMaxPayloadLength ≤ payloadLength then none
    else if (stream.drop 4).length < payloadLength then none
    else some ((stream.drop 4).take payloadLength)

def readLengths : Nat → List Bytes → Except Fault (Option (List Int))
  | 0, _ => .ok (some [])
  | _ + 1, [] => .error .outOfRange
  | left + 1, token :: tokens =>
      if isOnlyDigits token = false then .ok none
      else do
        let length ← stoi token
        let lengths ← readLengths left tokens
        return lengths.map (length :: ·)

def splitData : Bytes → List Int → Except Fault (List Bytes)
  | _, [] => .ok []
  | data, length :: lengths =>
      if data.length < length then .error .outOfRange
      else do
        let items ← splitData (data.drop length.toNat) lengths
        return data.take length.toNat :: items

/-- `ParseRawData`. The sizes of tokens are far below the largest `int`. -/
def parseRawData (dataToParse : Bytes) : Except Fault (Option ParsedPacket) :=
  match dataToParse.splitOn colon with
  | sessionId :: cmdType :: count :: rest =>
      if isOnlyDigits count = false then .ok none
      else do
        let n ← stoi count
        let needed ← intAdd n 2
        if 3 + rest.length < needed then return none
        else
          match ← readLengths n.toNat rest with
          | none => return none
          | some lengths =>
              let pos := sessionId.length + cmdType.length + count.length + 3 +
                ((rest.take n.toNat).map fun token => token.length + 1).sum
              let expectedTotalLength ← lengths.foldlM intAdd (pos : Int)
              if expectedTotalLength ≠ dataToParse.length then return none
              else
                let items ← splitData (dataToParse.drop pos) lengths
                return some ⟨sessionId, cmdType, items⟩
  | _ => .error .checkFailed

def readPayload (stream : Bytes) : Except Fault (Option ParsedPacket) :=
  match readRawData stream with
  | none => .ok none
  | some data => parseRawData data

end Cuttlefish.Confui
