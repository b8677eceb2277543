import Cuttlefish.ModemSimulator.PduParser

/-! # Which texts the PDU parser accepts

A text that `PDUParser` accepts is the fields of a PDU one behind the other, and the
fields it reads are these. -/

namespace Cuttlefish.ModemSimulator

/-- The fields of a PDU in their order; those of a variable length start with it. -/
structure PduFields where
  smsc : Text
  pduType : Text
  messageReference : Text
  originatorAddress : Text
  protocolId : Text
  dataCodeScheme : Text
  userData : Text

namespace PduFields

def text (fields : PduFields) : Text :=
  fields.smsc ++ (fields.pduType ++ (fields.messageReference ++ (fields.originatorAddress ++
    (fields.protocolId ++ (fields.dataCodeScheme ++ fields.userData)))))

/-- What `PDUParser` reads in a text of these fields. -/
def parsed (fields : PduFields) : PduParser where
  isValidPdu := true
  pduType := fields.pduType
  messageReference := fields.messageReference
  originatorAddress := fields.originatorAddress
  protocolId := fields.protocolId
  dataCodeScheme := fields.dataCodeScheme
  userData := fields.userData

end PduFields

namespace PduParser

def userDataSize (dataCodeScheme : Text) (udLength : Int) : Int :=
  if dataCodeScheme = "00".toList then udLength * 2 + 2 - udLength.tdiv 8 * 2 else udLength * 2 + 2

end PduParser

open PduParser

/-- The fields have the sizes for which the decoder looks. The length in front of the
service center address is read in the whole text, where it may stand alone. -/
structure PduFields.Sized (fields : PduFields) : Prop where
  smsc : (fields.smsc.length : Int) = 2 + hex2ToByte (fields.text.take 2) * 2
  pduType : fields.pduType.length = 2
  messageReference : fields.messageReference.length = 2
  originatorAddress : (fields.originatorAddress.length : Int) =
    evenLength (hex2ToByte (fields.originatorAddress.take 2)) + 4
  protocolId : fields.protocolId.length = 2
  dataCodeScheme : fields.dataCodeScheme.length = 2
  userData : (fields.userData.length : Int) =
    userDataSize fields.dataCodeScheme (hex2ToByte (fields.userData.take 2))

/-! ## Slices of a text -/

theorem fieldAt_eq {pdu : Text} {pos count : Int} {start size : Nat} (isPos : pos = start)
    (isCount : count = size) (inside : start ≤ pdu.length) :
    fieldAt pdu pos count = (pdu.drop start).take size := by
  rw [fieldAt, isPos, isCount, Int.toNat_natCast, Int.toNat_natCast, Nat.min_eq_left inside]

theorem take_drop_append {text : Text} {start size next : Nat} (isNext : next = start + size) :
    (text.drop start).take size ++ text.drop next = text.drop start := by
  rw [isNext, ← List.drop_drop, List.take_append_drop]

theorem startPos_eq (pdu : Text) : startPos pdu = 2 + hex2ToByte (pdu.take 2) * 2 := by
  rw [startPos]
  split
  next isZero =>
    rw [isZero]
    decide
  next => rfl

theorem endPos_eq (pdu : Text) :
    endPos pdu = protocolPos pdu + 4 + userDataSize (fieldAt pdu (protocolPos pdu + 2) 2)
      (hex2ToByte (fieldAt pdu (protocolPos pdu + 4) 2)) := by
  simp only [endPos, userDataSize]
  split <;> omega

/-! ## Fields that are put together -/

theorem fieldAt_behind (before field after : Text) {pos count : Int}
    (isPos : pos = before.length) (isCount : count = field.length) :
    fieldAt (before ++ (field ++ after)) pos count = field := by
  rw [fieldAt_eq isPos isCount (by rw [List.length_append]; omega), List.drop_left, List.take_left]

namespace PduFields

variable {fields : PduFields}

theorem Sized.startPos (sized : fields.Sized) :
    PduParser.startPos fields.text = fields.smsc.length := by
  rw [startPos_eq, sized.smsc]

theorem fieldAt_length (before field after : Text) {pos : Int} (isPos : pos = before.length)
    (two : 2 ≤ field.length) : fieldAt (before ++ (field ++ after)) pos 2 = field.take 2 := by
  have split :
      before ++ (field ++ after) = before ++ (field.take 2 ++ (field.drop 2 ++ after)) := by
    rw [← List.append_assoc (field.take 2), List.take_append_drop]
  rw [split]
  apply fieldAt_behind _ _ _ isPos
  rw [List.length_take, Nat.min_eq_left two]
  rfl

theorem Sized.addressLength (sized : fields.Sized) :
    fieldAt fields.text (PduParser.startPos fields.text + 4) 2 =
      fields.originatorAddress.take 2 := by
  have split : fields.text = (fields.smsc ++ fields.pduType ++ fields.messageReference) ++
      (fields.originatorAddress ++ (fields.protocolId ++ (fields.dataCodeScheme ++
        fields.userData))) := by
    simp only [text, List.append_assoc]
  have lower := neg_one_le_hex2ToByte (fields.originatorAddress.take 2)
  have address := sized.originatorAddress
  have two : 2 ≤ fields.originatorAddress.length := by
    rw [evenLength] at address
    split at address <;> omega
  have place : PduParser.startPos fields.text + 4 =
      (fields.smsc ++ fields.pduType ++ fields.messageReference).length := by
    rw [sized.startPos, List.length_append, List.length_append, sized.pduType,
      sized.messageReference]
    rfl
  rw [place, split]
  exact fieldAt_length _ _ _ rfl two

theorem Sized.oaLength (sized : fields.Sized) :
    PduParser.oaLength fields.text + 4 = fields.originatorAddress.length := by
  rw [PduParser.oaLength, sized.addressLength, sized.originatorAddress]

theorem Sized.protocolPos (sized : fields.Sized) :
    PduParser.protocolPos fields.text =
      (fields.smsc ++ fields.pduType ++ fields.messageReference ++
        fields.originatorAddress).length := by
  rw [PduParser.protocolPos, sized.oaLength, sized.startPos]
  simp only [List.length_append, sized.pduType, sized.messageReference]
  omega

theorem Sized.rest (sized : fields.Sized) :
    ∃ start : Nat, PduParser.protocolPos fields.text + 4 = start ∧
      fields.text.drop start = fields.userData ∧
      fields.text.length = start + fields.userData.length := by
  have split : fields.text = (fields.smsc ++ fields.pduType ++ fields.messageReference ++
      fields.originatorAddress ++ fields.protocolId ++ fields.dataCodeScheme) ++
        fields.userData := by
    simp only [text, List.append_assoc]
  generalize isFront : fields.smsc ++ fields.pduType ++ fields.messageReference ++
    fields.originatorAddress ++ fields.protocolId ++ fields.dataCodeScheme = front at split
  refine ⟨front.length, ?_, ?_, ?_⟩
  · rw [sized.protocolPos, ← isFront]
    simp only [List.length_append, sized.protocolId, sized.dataCodeScheme]
    omega
  · rw [split, List.drop_left]
  · rw [split, List.length_append]

theorem Sized.dataLength (sized : fields.Sized) :
    fieldAt fields.text (PduParser.protocolPos fields.text + 4) 2 = fields.userData.take 2 := by
  rcases sized.rest with ⟨start, isStart, isRest, size⟩
  rw [@fieldAt_eq _ _ 2 start 2 isStart rfl (by omega), isRest]

theorem Sized.decodePDU (sized : fields.Sized) (long : 8 ≤ fields.text.length) :
    PduParser.decodePDU fields.text = fields.parsed := by
  have start := sized.startPos
  have address := sized.oaLength
  have protocol := sized.protocolPos
  have type : fieldAt fields.text fields.smsc.length 2 = fields.pduType := by
    apply fieldAt_behind _ _ _ rfl
    rw [sized.pduType]
    rfl
  have reference : fieldAt fields.text (fields.smsc.length + 2) 2 = fields.messageReference := by
    rw [text, ← List.append_assoc]
    apply fieldAt_behind
    · rw [List.length_append, sized.pduType]
      rfl
    · rw [sized.messageReference]
      rfl
  have originator : fieldAt fields.text (fields.smsc.length + 4)
      fields.originatorAddress.length = fields.originatorAddress := by
    have split : fields.text = (fields.smsc ++ fields.pduType ++ fields.messageReference) ++
        (fields.originatorAddress ++ (fields.protocolId ++ (fields.dataCodeScheme ++
          fields.userData))) := by
      simp only [text, List.append_assoc]
    rw [split]
    apply fieldAt_behind _ _ _ _ rfl
    rw [List.length_append, List.length_append, sized.pduType, sized.messageReference]
    rfl
  generalize isBefore : fields.smsc ++ fields.pduType ++ fields.messageReference ++
    fields.originatorAddress = before at protocol
  have split : fields.text =
      before ++ (fields.protocolId ++ (fields.dataCodeScheme ++ fields.userData)) := by
    simp only [← isBefore, text, List.append_assoc]
  have identifier : fieldAt fields.text before.length 2 = fields.protocolId := by
    rw [split]
    apply fieldAt_behind _ _ _ rfl
    rw [sized.protocolId]
    rfl
  have scheme : fieldAt fields.text (before.length + 2) 2 = fields.dataCodeScheme := by
    rw [split, ← List.append_assoc before]
    apply fieldAt_behind
    · rw [List.length_append, sized.protocolId]
      rfl
    · rw [sized.dataCodeScheme]
      rfl
  rcases sized.rest with ⟨dataStart, isStart, isRest, size⟩
  have data : fieldAt fields.text (before.length + 4) fields.text.length = fields.userData := by
    rw [← protocol, fieldAt_eq isStart rfl (by omega), isRest,
      List.take_of_length_le (by omega)]
  have valid : endPos fields.text = fields.text.length := by
    rw [endPos_eq, sized.dataLength, protocol, scheme, ← sized.userData, ← protocol, isStart, size]
    rfl
  rw [PduParser.decodePDU, if_neg (by omega), valid, start, protocol, address, type, reference,
    originator, identifier, scheme, data, decide_eq_true rfl]
  rfl

/-! ## Fields that are taken apart -/

def ofText (pdu : Text) : PduFields where
  smsc := pdu.take (PduParser.startPos pdu).toNat
  pduType := (PduParser.decodePDU pdu).pduType
  messageReference := (PduParser.decodePDU pdu).messageReference
  originatorAddress := (PduParser.decodePDU pdu).originatorAddress
  protocolId := (PduParser.decodePDU pdu).protocolId
  dataCodeScheme := (PduParser.decodePDU pdu).dataCodeScheme
  userData := (PduParser.decodePDU pdu).userData

theorem decodePDU_of_valid {pdu : Text} (valid : (PduParser.decodePDU pdu).isValidPdu = true) :
    ∃ start address : Nat, PduParser.startPos pdu = start ∧ PduParser.oaLength pdu = address ∧
      endPos pdu = pdu.length ∧ 8 ≤ pdu.length ∧ start + address + 12 ≤ pdu.length ∧
      PduParser.decodePDU pdu =
        ⟨true, (pdu.drop start).take 2, (pdu.drop (start + 2)).take 2,
          (pdu.drop (start + 4)).take (address + 4), (pdu.drop (start + address + 8)).take 2,
          (pdu.drop (start + address + 10)).take 2, pdu.drop (start + address + 12)⟩ := by
  by_cases short : pdu.length < 8
  · rw [PduParser.decodePDU, if_pos short] at valid
    cases valid
  · rw [PduParser.decodePDU, if_neg short, decide_eq_true_eq] at valid
    have inside := protocolPos_le_endPos pdu
    rcases Int.eq_ofNat_of_zero_le (startPos_nonneg pdu) with ⟨start, isStart⟩
    rcases Int.eq_ofNat_of_zero_le (oaLength_nonneg pdu) with ⟨address, isAddress⟩
    have protocol : PduParser.protocolPos pdu = (start + address + 8 : Nat) := by
      rw [PduParser.protocolPos, isStart, isAddress]
      omega
    rw [valid, protocol] at inside
    refine ⟨start, address, isStart, isAddress, valid, by omega, by omega, ?_⟩
    rw [PduParser.decodePDU, if_neg short, valid, protocol, isStart, isAddress]
    have type := @fieldAt_eq pdu start 2 start 2 rfl rfl (by omega)
    have reference := @fieldAt_eq pdu (start + 2) 2 (start + 2) 2 rfl rfl (by omega)
    have originator := @fieldAt_eq pdu (start + 4) (address + 4) (start + 4) (address + 4) rfl rfl
      (by omega)
    have identifier := @fieldAt_eq pdu (start + address + 8 : Nat) 2 (start + address + 8) 2 rfl rfl
      (by omega)
    have scheme := @fieldAt_eq pdu ((start + address + 8 : Nat) + 2) 2 (start + address + 10) 2 rfl
      rfl (by omega)
    have data := @fieldAt_eq pdu ((start + address + 8 : Nat) + 4) pdu.length
      (start + address + 12) pdu.length rfl rfl (by omega)
    rw [List.take_of_length_le (by rw [List.length_drop]; omega)] at data
    rw [type, reference, originator, identifier, scheme, data, decide_eq_true rfl]

theorem sized_ofText {pdu : Text} (valid : (PduParser.decodePDU pdu).isValidPdu = true) :
    8 ≤ pdu.length ∧ (ofText pdu).text = pdu ∧ (ofText pdu).Sized := by
  rcases decodePDU_of_valid valid with
    ⟨start, address, isStart, isAddress, isEnd, long, inside, isParser⟩
  have whole : (ofText pdu).text = pdu := by
    simp only [text, ofText, isParser, isStart, Int.toNat_natCast]
    rw [take_drop_append (by omega), take_drop_append (by omega), take_drop_append (by omega),
      take_drop_append (by omega), take_drop_append (by omega), List.take_append_drop]
  have protocol : PduParser.protocolPos pdu = (start + address + 8 : Nat) := by
    rw [PduParser.protocolPos, isStart, isAddress]
    omega
  refine ⟨long, whole, ?_, ?_, ?_, ?_, ?_, ?_, ?_⟩
  · rw [whole, ← startPos_eq, isStart, ofText, isStart, List.length_take]
    omega
  · simp only [ofText, isParser, List.length_take, List.length_drop]
    omega
  · simp only [ofText, isParser, List.length_take, List.length_drop]
    omega
  · have length : hex2ToByte (((pdu.drop (start + 4)).take (address + 4)).take 2) =
        hex2ToByte (fieldAt pdu (PduParser.startPos pdu + 4) 2) := by
      rw [List.take_take, Nat.min_eq_left (by omega), isStart,
        @fieldAt_eq pdu (start + 4) 2 (start + 4) 2 rfl rfl (by omega)]
    simp only [ofText, isParser, length]
    rw [← PduParser.oaLength, isAddress, List.length_take, List.length_drop]
    omega
  · simp only [ofText, isParser, List.length_take, List.length_drop]
    omega
  · simp only [ofText, isParser, List.length_take, List.length_drop]
    omega
  · have scheme := @fieldAt_eq pdu ((start + address + 8 : Nat) + 2) 2 (start + address + 10) 2 rfl
      rfl (by omega)
    have length := @fieldAt_eq pdu ((start + address + 8 : Nat) + 4) 2 (start + address + 12) 2 rfl
      rfl (by omega)
    rw [endPos_eq, protocol, scheme, length] at isEnd
    simp only [ofText, isParser, List.length_drop]
    omega

theorem isValidPdu_iff (pdu : Text) :
    (PduParser.decodePDU pdu).isValidPdu = true ↔
      8 ≤ pdu.length ∧ ∃ fields : PduFields, fields.text = pdu ∧ fields.Sized := by
  constructor
  · intro valid
    rcases sized_ofText valid with ⟨long, whole, sized⟩
    exact ⟨long, ofText pdu, whole, sized⟩
  · rintro ⟨long, fields, whole, sized⟩
    rw [← whole] at long ⊢
    rw [sized.decodePDU long]
    rfl

/-! ## Fields with hexadecimal lengths -/

def octet : Text → Option Nat
  | high :: low :: _ =>
      match Hexadecimal.digit high, Hexadecimal.digit low with
      | some high, some low => some (16 * high + low)
      | _, _ => none
  | _ => none

def userDataOctets (dataCodeScheme : Text) (length : Nat) : Nat :=
  if dataCodeScheme = "00".toList then length - length / 8 else length

/-- All fields are there, as long as the three lengths among them say. -/
structure WellFormed (fields : PduFields) : Prop where
  smsc : ∃ octets, octet fields.smsc = some octets ∧ fields.smsc.length = 2 + 2 * octets
  pduType : fields.pduType.length = 2
  messageReference : fields.messageReference.length = 2
  originatorAddress : ∃ digits, octet fields.originatorAddress = some digits ∧
    fields.originatorAddress.length = 4 + (digits + digits % 2)
  protocolId : fields.protocolId.length = 2
  dataCodeScheme : fields.dataCodeScheme.length = 2
  userData : ∃ length, octet fields.userData = some length ∧
    fields.userData.length = 2 + 2 * userDataOctets fields.dataCodeScheme length

/-- There are hexadecimal octets where the decoder looks for lengths. -/
def LengthsGiven (pdu : Text) : Prop :=
  octet pdu ≠ none ∧ octet (fieldAt pdu (PduParser.startPos pdu + 4) 2) ≠ none ∧
    octet (fieldAt pdu (PduParser.protocolPos pdu + 4) 2) ≠ none

theorem hex2ToByte_of_octet {hex : Text} {value : Nat} (isOctet : octet hex = some value) :
    hex2ToByte hex = value := by
  match hex with
  | [] => cases isOctet
  | [_] => cases isOctet
  | high :: low :: rest =>
      rw [octet] at isOctet
      split at isOctet
      next highValue lowValue isHigh isLow =>
        have positive : ¬ ((highValue : Int) < 0 ∨ (lowValue : Int) < 0) := by omega
        rw [hex2ToByte, hexCharToInt, hexCharToInt, isHigh, isLow]
        simp only [positive, if_false]
        have isValue := Option.some.inj isOctet
        omega
      next => cases isOctet

theorem octet_take_two (text : Text) : octet (text.take 2) = octet text := by
  match text with
  | [] => rfl
  | [_] => rfl
  | _ :: _ :: _ => rfl

theorem evenLength_natCast (digits : Nat) : evenLength digits = (digits + digits % 2 : Nat) := by
  rw [evenLength]
  split <;> omega

theorem userDataSize_natCast (dataCodeScheme : Text) (length : Nat) :
    userDataSize dataCodeScheme length = (2 + 2 * userDataOctets dataCodeScheme length : Nat) := by
  rw [userDataSize, userDataOctets]
  split
  next =>
    have eighth : (length : Int).tdiv 8 = (length / 8 : Nat) := rfl
    rw [eighth]
    omega
  next => omega

theorem octet_append {front : Text} (two : 2 ≤ front.length) (behind : Text) :
    octet (front ++ behind) = octet front := by
  match front with
  | [] => cases two
  | [_] =>
      rw [List.length_singleton] at two
      omega
  | _ :: _ :: _ => rfl

theorem WellFormed.sized {fields : PduFields} (wellFormed : fields.WellFormed) :
    8 ≤ fields.text.length ∧ fields.Sized := by
  rcases wellFormed.smsc with ⟨octets, isOctets, smsc⟩
  rcases wellFormed.originatorAddress with ⟨digits, isDigits, address⟩
  rcases wellFormed.userData with ⟨length, isLength, data⟩
  constructor
  · simp only [text, List.length_append]
    omega
  · refine ⟨?_, wellFormed.pduType, wellFormed.messageReference, ?_, wellFormed.protocolId,
      wellFormed.dataCodeScheme, ?_⟩
    · have front : octet (fields.text.take 2) = some octets := by
        rw [octet_take_two, text, octet_append (by omega), isOctets]
      rw [hex2ToByte_of_octet front, smsc]
      omega
    · have front : octet (fields.originatorAddress.take 2) = some digits := by
        rw [octet_take_two, isDigits]
      rw [hex2ToByte_of_octet front, evenLength_natCast, address]
      omega
    · have front : octet (fields.userData.take 2) = some length := by
        rw [octet_take_two, isLength]
      rw [hex2ToByte_of_octet front, userDataSize_natCast, data]

theorem Sized.lengthsGiven_iff {fields : PduFields} (sized : fields.Sized) :
    LengthsGiven fields.text ↔ octet fields.text ≠ none ∧
      octet fields.originatorAddress ≠ none ∧ octet fields.userData ≠ none := by
  rw [LengthsGiven, sized.addressLength, sized.dataLength, octet_take_two, octet_take_two]

theorem Sized.wellFormed {fields : PduFields} (sized : fields.Sized)
    (given : LengthsGiven fields.text) : fields.WellFormed := by
  rcases sized.lengthsGiven_iff.mp given with ⟨someOctets, someDigits, someLength⟩
  rcases Option.ne_none_iff_exists'.mp someOctets with ⟨octets, isOctets⟩
  rcases Option.ne_none_iff_exists'.mp someDigits with ⟨digits, isDigits⟩
  rcases Option.ne_none_iff_exists'.mp someLength with ⟨length, isLength⟩
  have smsc := sized.smsc
  have address := sized.originatorAddress
  have data := sized.userData
  rw [hex2ToByte_of_octet (octet_take_two _ ▸ isOctets)] at smsc
  rw [hex2ToByte_of_octet (octet_take_two _ ▸ isDigits), evenLength_natCast] at address
  rw [hex2ToByte_of_octet (octet_take_two _ ▸ isLength), userDataSize_natCast] at data
  refine ⟨⟨octets, ?_, by omega⟩, sized.pduType, sized.messageReference,
    ⟨digits, isDigits, by omega⟩, sized.protocolId, sized.dataCodeScheme, ⟨length, isLength, by omega⟩⟩
  rw [← isOctets, text, octet_append (by omega)]

/-- Of the texts with hexadecimal lengths, those are accepted that are all fields of a
PDU one behind the other. -/
theorem accepted_iff_wellFormed (pdu : Text) :
    (PduParser.decodePDU pdu).isValidPdu = true ∧ LengthsGiven pdu ↔
      ∃ fields : PduFields, fields.text = pdu ∧ fields.WellFormed := by
  constructor
  · rintro ⟨valid, given⟩
    rcases sized_ofText valid with ⟨-, whole, sized⟩
    rw [← whole] at given
    exact ⟨ofText pdu, whole, sized.wellFormed given⟩
  · rintro ⟨fields, whole, wellFormed⟩
    rcases wellFormed.sized with ⟨long, sized⟩
    rcases wellFormed.smsc with ⟨octets, isOctets, smsc⟩
    rcases wellFormed.originatorAddress with ⟨digits, isDigits, -⟩
    rcases wellFormed.userData with ⟨length, isLength, -⟩
    rw [← whole, sized.decodePDU long, sized.lengthsGiven_iff]
    refine ⟨rfl, ?_, ?_, ?_⟩
    · rw [text, octet_append (by omega), isOctets]
      exact Option.some_ne_none octets
    · rw [isDigits]
      exact Option.some_ne_none digits
    · rw [isLength]
      exact Option.some_ne_none length

/-- What is accepted and refused against the format: user data that is not hexadecimal,
a text without user data length, and a message with a validity period of one octet. -/
theorem other_pdus_accepted :
    (PduParser.decodePDU ['0', '0', '0', '1', '0', '0', '0', '4', '8', '1', '4', '5', '5', '4', '0',
        '0', '0', '8', '0', '2', 'z', 'z', '6', '0']).isValidPdu = true ∧
      Hexadecimal.isDigit 'z' = false ∧
      (PduParser.decodePDU ['0', '0', '0', '1', '0', '0', '0', '4', '8', '1', '4', '5', '5', '4',
        '0', '0', '0', '8']).isValidPdu = true ∧
      (PduParser.decodePDU ['0', '0', '1', '1', '0', '0', '0', '4', '8', '1', '4', '5', '5', '4',
        '0', '0', '0', '8', 'A', 'A', '0', '2', '4', 'F', '6', '0']).isValidPdu = false := by
  decide +kernel

end PduFields

end Cuttlefish.ModemSimulator
