import Cuttlefish.CvdSendSms.PduFormatBuilder
import Cuttlefish.ModemSimulator.PduParser

/-! # The sender's number in both programs

What the PDU parser of the modem simulator makes of the text that the PDU format builder
returns. -/

namespace Cuttlefish.CvdSendSms

open ModemSimulator

/-! ## Fields of a PDU -/

theorem fieldAt_append (before field after : Text) {pos count : Int}
    (isPos : pos = before.length) (isCount : count = field.length) :
    PduParser.fieldAt (before ++ field ++ after) pos count = field := by
  have start : min pos.toNat (before ++ field ++ after).length = before.length := by
    simp only [List.length_append]
    omega
  rw [PduParser.fieldAt, start, isCount, Int.toNat_natCast, List.append_assoc, List.drop_left,
    List.take_left]

theorem hex2ToByte_decimalToHexString {number : Nat} (small : number < 256) :
    PduParser.hex2ToByte (decimalToHexString number) = number := by
  have all : ∀ number : Fin 256,
      PduParser.hex2ToByte (decimalToHexString number.val) = number.val := by decide +kernel
  exact all ⟨number, small⟩

def pduOf (number : Text) (count : Nat) (encoded : Text) : Text :=
  ['0', '0', '0', '1', '0', '0'] ++ decimalToHexString number.length ++ ['9', '1'] ++
    semiOctetsEncode number ++ ['0', '0'] ++ ['0', '0'] ++ decimalToHexString count ++ encoded

def addressOf (number : Text) : Text :=
  decimalToHexString number.length ++ ['9', '1'] ++ semiOctetsEncode number

theorem append_groups (start length type digits protocol scheme count encoded : Text) :
    start ++ length ++ type ++ digits ++ protocol ++ scheme ++ count ++ encoded =
        start ++ length ++ (type ++ digits ++ protocol ++ scheme ++ count ++ encoded) ∧
      start ++ length ++ type ++ digits ++ protocol ++ scheme ++ count ++ encoded =
        start ++ (length ++ type ++ digits) ++ (protocol ++ scheme ++ count ++ encoded) ∧
      start ++ length ++ type ++ digits ++ protocol ++ scheme ++ count ++ encoded =
        (start ++ (length ++ type ++ digits) ++ protocol) ++ scheme ++ (count ++ encoded) ∧
      start ++ length ++ type ++ digits ++ protocol ++ scheme ++ count ++ encoded =
        (start ++ (length ++ type ++ digits) ++ protocol ++ scheme) ++ count ++ encoded := by
  simp only [List.append_assoc, and_self]

section

variable {number encoded : Text} {count : Nat}

theorem startPos_pduOf : PduParser.startPos (pduOf number count encoded) = 2 := rfl

theorem oaLength_pduOf (short : number.length < 256) :
    PduParser.oaLength (pduOf number count encoded) = (semiOctetsEncode number).length := by
  have field : PduParser.fieldAt (pduOf number count encoded) (2 + 4) 2 =
      decimalToHexString number.length := by
    rw [pduOf, (append_groups ..).1]
    refine fieldAt_append _ _ _ (by decide) ?_
    rw [length_decimalToHexString short]
    rfl
  rw [PduParser.oaLength, startPos_pduOf, field, hex2ToByte_decimalToHexString short,
    length_semiOctetsEncode, PduParser.evenLength]
  split <;> omega

theorem length_addressOf (short : number.length < 256) :
    (addressOf number).length = (semiOctetsEncode number).length + 4 := by
  simp only [addressOf, List.length_append, length_decimalToHexString short, List.length_cons,
    List.length_nil]
  omega

theorem protocolPos_pduOf (short : number.length < 256) :
    PduParser.protocolPos (pduOf number count encoded) = (semiOctetsEncode number).length + 10 := by
  rw [PduParser.protocolPos, startPos_pduOf, oaLength_pduOf short]
  omega

theorem length_pduOf (short : number.length < 256) (fits : count < 256) :
    (pduOf number count encoded).length =
      (semiOctetsEncode number).length + 16 + encoded.length := by
  simp only [pduOf, List.length_append, length_decimalToHexString short,
    length_decimalToHexString fits, List.length_cons, List.length_nil]
  omega

theorem endPos_pduOf (short : number.length < 256) (fits : count < 256) :
    PduParser.endPos (pduOf number count encoded) =
      (semiOctetsEncode number).length + 16 + 2 * (count - count / 8 : Nat) := by
  have scheme : PduParser.fieldAt (pduOf number count encoded)
      (PduParser.protocolPos (pduOf number count encoded) + 2) 2 = ['0', '0'] := by
    rw [protocolPos_pduOf short, pduOf, (append_groups ..).2.2.1]
    refine fieldAt_append _ _ _ ?_ rfl
    simp only [List.length_append, length_decimalToHexString short, List.length_cons,
      List.length_nil]
    omega
  have length : PduParser.fieldAt (pduOf number count encoded)
      (PduParser.protocolPos (pduOf number count encoded) + 4) 2 = decimalToHexString count := by
    rw [protocolPos_pduOf short, pduOf, (append_groups ..).2.2.2]
    refine fieldAt_append _ _ _ ?_ ?_
    · simp only [List.length_append, length_decimalToHexString short, List.length_cons,
        List.length_nil]
      omega
    · rw [length_decimalToHexString fits]
      rfl
  have eighth : (count : Int).tdiv 8 = (count / 8 : Nat) := rfl
  have isGsm : ['0', '0'] = "00".toList := by decide
  rw [PduParser.endPos, scheme, length, hex2ToByte_decimalToHexString fits, if_pos isGsm, eighth,
    protocolPos_pduOf short]
  omega

theorem decodePDU_pduOf (short : number.length < 256) (fits : count < 256)
    (isLength : encoded.length = 2 * (count - count / 8)) :
    (PduParser.decodePDU (pduOf number count encoded)).isValidPdu = true ∧
      (PduParser.decodePDU (pduOf number count encoded)).originatorAddress = addressOf number := by
  have total : (pduOf number count encoded).length = _ := length_pduOf short fits
  have long : ¬ (pduOf number count encoded).length < 8 := by omega
  rw [PduParser.decodePDU, if_neg long]
  constructor
  · rw [decide_eq_true_eq, endPos_pduOf short fits, total, isLength]
    omega
  · dsimp only
    rw [startPos_pduOf, oaLength_pduOf short, pduOf, (append_groups ..).2.1]
    refine fieldAt_append _ _ _ rfl ?_
    have length := length_addressOf short
    rw [addressOf] at length
    omega

end

/-! ## Semi-octets -/

theorem swapDigits_semiOctetsEncode (number : Text) :
    PduParser.swapDigits (semiOctetsEncode number) =
      if number.length % 2 = 0 then number else number ++ ['f'] := by
  induction number using semiOctetsEncode.induct with
  | case1 first second rest induction =>
      have parity : (first :: second :: rest).length % 2 = rest.length % 2 := by
        simp only [List.length_cons]
        omega
      rw [semiOctetsEncode, PduParser.swapDigits, induction, parity]
      split
      · rfl
      · rfl
  | case2 last => rfl
  | case3 => rfl

theorem bcdToString_semiOctetsEncode {number : Text}
    (digits : ∀ char ∈ number, Decimal.isDigit char = true) :
    PduParser.bcdToString (semiOctetsEncode number) =
      if number.length % 2 = 0 then number else number ++ ['f'] := by
  have even : ¬ (semiOctetsEncode number).length % 2 = 1 := by
    rw [length_semiOctetsEncode]
    omega
  have last : (PduParser.swapDigits (semiOctetsEncode number)).getLast? ≠ some 'F' := by
    rw [swapDigits_semiOctetsEncode]
    split
    · intro isLast
      exact absurd (digits _ (List.mem_of_getLast? isLast)) (by decide)
    · simp
  rw [PduParser.bcdToString, if_neg even, if_neg last, swapDigits_semiOctetsEncode]

theorem length_swapDigits_le (data : Text) : (PduParser.swapDigits data).length ≤ data.length := by
  induction data using PduParser.swapDigits.induct with
  | case1 first second rest induction =>
      simp only [PduParser.swapDigits, List.length_cons]
      omega
  | case2 data short =>
      rw [PduParser.swapDigits]
      · exact Nat.zero_le _
      · exact short

theorem length_bcdToString_le (data : Text) :
    (PduParser.bcdToString data).length ≤ data.length := by
  rw [PduParser.bcdToString]
  split
  · exact Nat.zero_le _
  · split
    · rw [List.length_dropLast]
      exact Nat.le_trans (Nat.sub_le _ _) (length_swapDigits_le data)
    · exact length_swapDigits_le data

def parsedNumber (number : Text) : Text :=
  if (semiOctetsEncode number).length = 14 then
    PduParser.bcdToString ((semiOctetsEncode number).drop 2)
  else PduParser.bcdToString (semiOctetsEncode number)

theorem getPhoneNumberFromAddress_pduOf {number encoded : Text} {count : Nat}
    (short : number.length < 256) (fits : count < 256)
    (isLength : encoded.length = 2 * (count - count / 8)) :
    (PduParser.decodePDU (pduOf number count encoded)).getPhoneNumberFromAddress =
      some (parsedNumber number) := by
  rcases decodePDU_pduOf short fits isLength with ⟨valid, address⟩
  have length := length_addressOf short
  have behind : ∀ more, (addressOf number).drop (4 + more) = (semiOctetsEncode number).drop more := by
    intro more
    have start : (decimalToHexString number.length ++ ['9', '1']).length = 4 := by
      rw [List.length_append, length_decimalToHexString short]
      rfl
    rw [addressOf, ← List.drop_drop, ← start, List.drop_left]
  rw [PduParser.getPhoneNumberFromAddress, parsedNumber]
  rw [valid, address, if_pos rfl]
  dsimp only
  by_cases isLong : (semiOctetsEncode number).length = 14
  · have inRange : CxxString.InRange (addressOf number) 6 := ⟨by decide, by omega⟩
    rw [if_pos isLong, if_pos (by omega), CxxString.substr, if_pos inRange, ← behind 2]
    rfl
  · have inRange : CxxString.InRange (addressOf number) 4 := ⟨by decide, by omega⟩
    rw [if_neg isLong, if_neg (by omega), CxxString.substr, if_pos inRange, Option.map_some]
    exact congrArg (some ∘ PduParser.bcdToString) (behind 0)

/-- The parser finds the sender's digits exactly if they come in full octets and are not
as many as those for which it takes two more digits for the type. -/
theorem parsedNumber_eq_iff {number : Text}
    (digits : ∀ char ∈ number, Decimal.isDigit char = true) :
    parsedNumber number = number ↔ number.length % 2 = 0 ∧ number.length ≠ 14 := by
  have length := length_semiOctetsEncode number
  rw [parsedNumber]
  split
  next isLong =>
    refine iff_of_false ?_ (by omega)
    intro same
    have shorter := length_bcdToString_le ((semiOctetsEncode number).drop 2)
    rw [same, List.length_drop] at shorter
    omega
  next notLong =>
    rw [bcdToString_semiOctetsEncode digits]
    split
    next even => exact iff_of_true rfl ⟨even, by omega⟩
    next odd => exact iff_of_false (by simp) fun both => odd both.1

/-! ## Messages -/

theorem isValid_withoutPlus {number : Text} (valid : isValidE164PhoneNumber number = true) :
    (∀ char ∈ withoutPlus number, Decimal.isDigit char = true) ∧
      (withoutPlus number).length < 256 := by
  rw [isValidE164PhoneNumber] at valid
  split at valid
  · exact nomatch valid
  next first rest isNumber =>
    simp only [Bool.and_eq_true, decide_eq_true_eq, List.all_eq_true] at valid
    rcases valid with ⟨⟨⟨isFirst, -⟩, areDigits⟩, -, short⟩
    rw [isNumber]
    constructor
    · intro char member
      rcases List.mem_cons.mp member with rfl | later
      · exact isFirst
      · exact areDigits char later
    · rw [List.length_cons]
      omega

theorem build_eq_pduOf {unicodeString : Text → List UInt16} {userData senderNumber : Text}
    (accepted : build unicodeString userData senderNumber ≠ []) :
    isValidE164PhoneNumber senderNumber = true ∧ (unicodeString userData).length ≤ 160 ∧
      gsm7bitEncode (unicodeString userData) ≠ [] ∧
      build unicodeString userData senderNumber =
        pduOf (withoutPlus senderNumber) (unicodeString userData).length
          (gsm7bitEncode (unicodeString userData)) := by
  rw [build] at accepted ⊢
  split at accepted
  · exact absurd rfl accepted
  next valid =>
    dsimp only at accepted
    split at accepted
    · exact absurd rfl accepted
    next short =>
      split at accepted
      · exact absurd rfl accepted
      next encoded =>
        have start : "000100".toList = ['0', '0', '0', '1', '0', '0'] := by decide
        have type : "91".toList = ['9', '1'] := by decide
        have zero : "00".toList = ['0', '0'] := by decide
        rw [if_neg valid, if_neg short, if_neg encoded, start, type, zero]
        simp only [not_or, Bool.not_eq_false] at valid
        exact ⟨valid.2.2, Nat.le_of_not_lt short, encoded, rfl⟩

theorem getPhoneNumberFromAddress_build {unicodeString : Text → List UInt16}
    {userData senderNumber : Text} (accepted : build unicodeString userData senderNumber ≠ []) :
    let parser := PduParser.decodePDU (build unicodeString userData senderNumber)
    parser.isValidPdu = true ∧
      parser.getPhoneNumberFromAddress = some (parsedNumber (withoutPlus senderNumber)) := by
  rcases build_eq_pduOf accepted with ⟨valid, fits, encoded, isPdu⟩
  rcases isValid_withoutPlus valid with ⟨digits, short⟩
  have isLength := length_gsm7bitEncode encoded
  dsimp only
  rw [isPdu]
  constructor
  · exact (decodePDU_pduOf short (by omega) isLength).1
  · exact getPhoneNumberFromAddress_pduOf short (by omega) isLength

/-- The parser accepts what the builder returns, and finds the sender's digits in it
exactly if there is an even number of them other than 14. -/
theorem sender_number_parsed (unicodeString : Text → List UInt16) (userData senderNumber : Text)
    (accepted : build unicodeString userData senderNumber ≠ []) :
    let parser := PduParser.decodePDU (build unicodeString userData senderNumber)
    let digits := withoutPlus senderNumber
    parser.isValidPdu = true ∧
      (parser.getPhoneNumberFromAddress = some digits ↔
        digits.length % 2 = 0 ∧ digits.length ≠ 14) := by
  have digits := (isValid_withoutPlus (build_eq_pduOf accepted).1).1
  rcases getPhoneNumberFromAddress_build accepted with ⟨isValid, isNumber⟩
  dsimp only
  rw [isNumber, Option.some.injEq]
  exact ⟨isValid, parsedNumber_eq_iff digits⟩

def latinUnits (text : Text) : List UInt16 := text.map fun char => char.toNat.toUInt16

theorem build_hi_ne_nil {senderNumber : Text}
    (valid : isValidE164PhoneNumber senderNumber = true) :
    build latinUnits ['h', 'i'] senderNumber ≠ [] := by
  have encoded : gsm7bitEncode (latinUnits ['h', 'i']) ≠ [] := by decide +kernel
  have nonempty : senderNumber ≠ [] := by
    intro none
    rw [none] at valid
    cases valid
  have short : ¬ 160 < (latinUnits ['h', 'i']).length := by decide
  simp [build, nonempty, valid, encoded, short]

theorem even_sender_number_parsed :
    let parser := PduParser.decodePDU (build latinUnits "hi".toList "+123456".toList)
    parser.isValidPdu = true ∧ parser.getPhoneNumberFromAddress = some "123456".toList := by
  rw [String.toList_ofList, String.toList_ofList, String.toList_ofList]
  have parsed := sender_number_parsed latinUnits ['h', 'i'] ['+', '1', '2', '3', '4', '5', '6']
    (build_hi_ne_nil rfl)
  exact ⟨parsed.1, parsed.2.mpr (by decide +kernel)⟩

/-- The padding of an odd number of digits stays, and of 14 digits two are lost. -/
theorem sender_numbers_not_parsed :
    (PduParser.decodePDU
        (build latinUnits "hi".toList "16501234567".toList)).getPhoneNumberFromAddress =
      some "16501234567f".toList ∧
    (PduParser.decodePDU
        (build latinUnits "hi".toList "12345678901234".toList)).getPhoneNumberFromAddress =
      some "345678901234".toList := by
  repeat rw [String.toList_ofList]
  rw [(getPhoneNumberFromAddress_build (build_hi_ne_nil rfl)).2,
    (getPhoneNumberFromAddress_build (build_hi_ne_nil rfl)).2]
  decide +kernel

end Cuttlefish.CvdSendSms
