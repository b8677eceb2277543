import Cuttlefish.Foundation.CxxString
import Cuttlefish.Foundation.Hexadecimal

/-! # PDU parser

`PDUParser` of `host/commands/modem_simulator`: short messages in PDU mode. A
function that can throw returns `none` there. -/

namespace Cuttlefish.ModemSimulator

structure PduParser where
  isValidPdu : Bool
  pduType : Text
  messageReference : Text
  originatorAddress : Text
  protocolId : Text
  dataCodeScheme : Text
  userData : Text
  deriving DecidableEq, Repr

namespace PduParser

def withoutServiceCenterAddress : Text := "00".toList
def sriAndMmsIndicator : Text := "24".toList
def udhiAndSriAndMmsIndicator : Text := "64".toList

def hexCharToInt (char : Char) : Int :=
  match Hexadecimal.digit char with
  | none => -1
  | some value => value

def hex2ToByte : Text → Int
  | high :: low :: _ =>
      if hexCharToInt high < 0 ∨ hexCharToInt low < 0 then -1
      else hexCharToInt high * 16 + hexCharToInt low
  | _ => -1

/-- `substr(std::min(pos, size), count)`. -/
def fieldAt (pdu : Text) (pos count : Int) : Text :=
  (pdu.drop (min pos.toNat pdu.length)).take count.toNat

def evenLength (length : Int) : Int := if length % 2 = 1 then length + 1 else length

def startPos (pdu : Text) : Int :=
  if pdu.take 2 = withoutServiceCenterAddress then 2 else 2 + hex2ToByte (pdu.take 2) * 2

def oaLength (pdu : Text) : Int :=
  evenLength (hex2ToByte (fieldAt pdu (startPos pdu + 4) 2))

def protocolPos (pdu : Text) : Int := startPos pdu + 4 + (oaLength pdu + 4)

def endPos (pdu : Text) : Int :=
  let udLength := hex2ToByte (fieldAt pdu (protocolPos pdu + 4) 2)
  let pos := protocolPos pdu + 4 + (udLength * 2 + 2)
  if fieldAt pdu (protocolPos pdu + 2) 2 = "00".toList then pos - udLength.tdiv 8 * 2 else pos

def decodePDU (pdu : Text) : PduParser :=
  if pdu.length < 8 then ⟨false, [], [], [], [], [], []⟩
  else
    { isValidPdu := decide (endPos pdu = pdu.length)
      pduType := fieldAt pdu (startPos pdu) 2
      messageReference := fieldAt pdu (startPos pdu + 2) 2
      originatorAddress := fieldAt pdu (startPos pdu + 4) (oaLength pdu + 4)
      protocolId := fieldAt pdu (protocolPos pdu) 2
      dataCodeScheme := fieldAt pdu (protocolPos pdu + 2) 2
      userData := fieldAt pdu (protocolPos pdu + 4) pdu.length }

def swapDigits : Text → Text
  | first :: second :: rest => second :: first :: swapDigits rest
  | _ => []

def bcdToString (data : Text) : Text :=
  if data.length % 2 = 1 then []
  else if (swapDigits data).getLast? = some 'F' then (swapDigits data).dropLast
  else swapDigits data

def stringToBCD : Text → Text
  | first :: second :: rest => second :: first :: stringToBCD rest
  | [first] => ['F', first]
  | [] => []

def getPhoneNumberFromAddress (parser : PduParser) : Option Text :=
  if parser.isValidPdu then
    -- Skip the length and the type of the address.
    let skipped := if parser.originatorAddress.length = 18 then 6 else 4
    (CxxString.substr parser.originatorAddress skipped).map bcdToString
  else some []

def createPDU (parser : PduParser) (timeStamp : Text) : Text :=
  if parser.isValidPdu then
    withoutServiceCenterAddress ++
      (if hex2ToByte parser.pduType / 64 % 2 = 1 then udhiAndSriAndMmsIndicator
        else sriAndMmsIndicator) ++
      parser.originatorAddress ++ parser.protocolId ++ parser.dataCodeScheme ++ timeStamp ++
      parser.userData
  else []

def isNeededStatuReport (parser : PduParser) : Bool :=
  parser.isValidPdu && decide (hex2ToByte parser.pduType / 32 % 2 = 1)

def dropEnd (text : Text) (count : Nat) : Text :=
  if text.length < count then text else text.take (text.length - count)

def remoteNumber (number hostPort : Text) : Text :=
  let replaced := dropEnd number 4 ++ hostPort
  if replaced.length % 2 = 1 then replaced ++ ['F'] else replaced

def createRemotePDU (parser : PduParser) (hostPort : Text) : Option Text :=
  if hostPort.length ≠ 4 ∨ parser.isValidPdu = false then some []
  else
    match parser.getPhoneNumberFromAddress with
    | none => none
    | some number =>
        let newPhoneNumber := remoteNumber number hostPort
        some (withoutServiceCenterAddress ++ parser.pduType ++ parser.messageReference ++
          dropEnd parser.originatorAddress newPhoneNumber.length ++
          bcdToString newPhoneNumber ++ parser.protocolId ++ parser.dataCodeScheme ++
          parser.userData)

/-! ## The address of a valid PDU -/

theorem neg_one_le_hex2ToByte (hex : Text) : -1 ≤ hex2ToByte hex := by
  unfold hex2ToByte
  split
  · split <;> omega
  · omega

theorem oaLength_nonneg (pdu : Text) : 0 ≤ oaLength pdu := by
  have lower := neg_one_le_hex2ToByte (fieldAt pdu (startPos pdu + 4) 2)
  rw [oaLength, evenLength]
  split <;> omega

theorem startPos_nonneg (pdu : Text) : 0 ≤ startPos pdu := by
  have lower := neg_one_le_hex2ToByte (pdu.take 2)
  rw [startPos]
  split <;> omega

theorem protocolPos_le_endPos (pdu : Text) : protocolPos pdu + 4 ≤ endPos pdu := by
  have lower := neg_one_le_hex2ToByte (fieldAt pdu (protocolPos pdu + 4) 2)
  simp only [endPos]
  generalize hex2ToByte (fieldAt pdu (protocolPos pdu + 4) 2) = udLength at lower
  split
  · rcases Int.lt_or_le udLength 0 with negative | nonneg
    · have value : udLength = -1 := by omega
      subst value
      have zero : (-1 : Int).tdiv 8 = 0 := by decide
      omega
    · rw [Int.tdiv_eq_ediv_of_nonneg nonneg]
      omega
  · omega

theorem length_swapDigits {digits : Text} (even : digits.length % 2 = 0) :
    (swapDigits digits).length = digits.length := by
  induction digits using swapDigits.induct with
  | case1 first second rest induction =>
      rw [List.length_cons, List.length_cons] at even
      rw [swapDigits, List.length_cons, List.length_cons, induction (by omega), List.length_cons,
        List.length_cons]
  | case2 digits short =>
      cases digits with
      | nil => rfl
      | cons first rest =>
          cases rest with
          | nil => cases even
          | cons second rest => exact absurd rfl (short first second rest)

theorem swapDigits_swapDigits {digits : Text} (even : digits.length % 2 = 0) :
    swapDigits (swapDigits digits) = digits := by
  induction digits using swapDigits.induct with
  | case1 first second rest induction =>
      rw [List.length_cons, List.length_cons] at even
      rw [swapDigits, swapDigits, induction (by omega)]
  | case2 digits short =>
      cases digits with
      | nil => rfl
      | cons first rest =>
          cases rest with
          | nil => cases even
          | cons second rest => exact absurd rfl (short first second rest)

theorem bcdToString_swapDigits {digits : Text} (even : digits.length % 2 = 0) :
    bcdToString (swapDigits digits) =
      if digits.getLast? = some 'F' then digits.dropLast else digits := by
  rw [bcdToString, length_swapDigits even, if_neg (by omega), swapDigits_swapDigits even]

theorem stringToBCD_eq (digits : Text) :
    stringToBCD digits =
      swapDigits (if digits.length % 2 = 1 then digits ++ ['F'] else digits) := by
  induction digits using stringToBCD.induct with
  | case1 first second rest induction =>
      have parity : (first :: second :: rest).length % 2 = rest.length % 2 := by
        simp only [List.length_cons]
        omega
      rw [stringToBCD, induction, parity]
      split
      · rfl
      · rfl
  | case2 first => rfl
  | case3 => rfl

theorem isDigit_ne_fill {char : Char} (isDigit : Decimal.isDigit char = true) : char ≠ 'F' := by
  intro isFill
  rw [isFill] at isDigit
  exact absurd isDigit (by decide)

theorem notMem_fill {digits : Text} (areDigits : ∀ char ∈ digits, Decimal.isDigit char = true) :
    'F' ∉ digits := by
  intro member
  exact isDigit_ne_fill (areDigits 'F' member) rfl

theorem bcdToString_stringToBCD {digits : Text} (noFill : 'F' ∉ digits) :
    bcdToString (stringToBCD digits) = digits := by
  rw [stringToBCD_eq]
  split
  next odd =>
    have even : (digits ++ ['F']).length % 2 = 0 := by
      rw [List.length_append, List.length_singleton]
      omega
    rw [bcdToString_swapDigits even, List.getLast?_concat, if_pos rfl, List.dropLast_concat]
  next notOdd =>
    rw [bcdToString_swapDigits (by omega), if_neg]
    intro isFill
    exact noFill (List.mem_of_getLast? isFill)

theorem length_stringToBCD (digits : Text) :
    (stringToBCD digits).length = digits.length + digits.length % 2 := by
  rw [stringToBCD_eq]
  split
  next odd =>
    rw [length_swapDigits, List.length_append, List.length_singleton]
    · omega
    · rw [List.length_append, List.length_singleton]
      omega
  next notOdd =>
    rw [length_swapDigits (by omega)]
    omega

theorem mem_stringToBCD {digits : Text} {char : Char} (member : char ∈ stringToBCD digits) :
    char = 'F' ∨ char ∈ digits := by
  induction digits using stringToBCD.induct with
  | case1 first second rest induction =>
      rw [stringToBCD, List.mem_cons, List.mem_cons] at member
      rcases member with isSecond | isFirst | inRest
      · simp [isSecond]
      · simp [isFirst]
      · rcases induction inRest with isFill | inDigits
        · exact .inl isFill
        · simp [inDigits]
  | case2 first =>
      rw [stringToBCD, List.mem_cons] at member
      exact member
  | case3 => cases member

end PduParser

end Cuttlefish.ModemSimulator
