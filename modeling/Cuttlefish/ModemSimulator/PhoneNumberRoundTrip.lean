import Cuttlefish.ModemSimulator.SimIoUpdates
import Cuttlefish.ModemSimulator.SimPhoneNumber

/-! # The number of the SIM is read as it was set -/

namespace Cuttlefish.ModemSimulator

open Xml DocumentApi SimFileSystem

namespace PhoneRecord

def compose (front : Text) (high low : Char) (type digits rest : Text) : Text :=
  front ++ high :: low :: (type ++ (digits ++ rest))

section

variable {front type digits rest : Text} {high low : Char}

theorem length_compose (isType : type.length = 2) :
    (compose front high low type digits rest).length =
      front.length + 4 + digits.length + rest.length := by
  rw [compose]
  simp only [List.length_append, List.length_cons, isType]
  omega

theorem footerOffset_compose (isType : type.length = 2)
    (isFooter : 4 + digits.length + rest.length = 28) :
    footerOffset (compose front high low type digits rest) = front.length := by
  rw [footerOffset, footerSizeBytes, length_compose isType]
  omega

theorem take_compose (isType : type.length = 2) :
    (compose front high low type digits rest).take (front.length + 4) =
        front ++ high :: low :: type ∧
      (compose front high low type digits rest).drop (front.length + 4) = digits ++ rest := by
  have split : compose front high low type digits rest =
      (front ++ high :: low :: type) ++ (digits ++ rest) := by
    simp only [compose, List.append_assoc, List.cons_append]
  have length : (front ++ high :: low :: type).length = front.length + 4 := by
    simp only [List.length_append, List.length_cons, isType]
  rw [split, ← length]
  exact ⟨List.take_left, List.drop_left⟩

theorem exists_compose {record : Text} (long : 28 ≤ record.length) {size : Nat}
    (fits : size ≤ 24) :
    ∃ front high low type digits rest, record = compose front high low type digits rest ∧
      type.length = 2 ∧ digits.length = size ∧ 4 + digits.length + rest.length = 28 := by
  have footer : (record.drop (record.length - 28)).length = 28 := by
    rw [List.length_drop]
    omega
  match isFooter : record.drop (record.length - 28) with
  | high :: low :: first :: second :: behind =>
      rw [isFooter] at footer
      simp only [List.length_cons] at footer
      refine ⟨record.take (record.length - 28), high, low, [first, second], behind.take size,
        behind.drop size, ?_, rfl, ?_, ?_⟩
      · rw [compose, List.take_append_drop]
        change record = record.take (record.length - 28) ++ high :: low :: first :: second :: behind
        rw [← isFooter, List.take_append_drop]
      · rw [List.length_take]
        omega
      · rw [List.length_take, List.length_drop]
        omega
  | [] =>
      rw [isFooter] at footer
      cases footer
  | [_] =>
      rw [isFooter] at footer
      cases footer
  | [_, _] =>
      rw [isFooter] at footer
      cases footer
  | [_, _, _] =>
      rw [isFooter] at footer
      cases footer

theorem set_first (front : Text) (old new : Char) (behind : Text) :
    (front ++ old :: behind).set front.length new = front ++ new :: behind := by
  rw [List.set_append_right _ _ (Nat.le_refl _), Nat.sub_self, List.set_cons_zero]

theorem set_second (front : Text) (first old new : Char) (behind : Text) :
    (front ++ first :: old :: behind).set (front.length + 1) new =
      front ++ first :: new :: behind := by
  rw [List.set_append_right _ _ (Nat.le_add_right _ 1), Nat.add_sub_cancel_left, List.set_cons_succ,
    List.set_cons_zero]

theorem withNumber_compose (isType : type.length = 2)
    (isFooter : 4 + digits.length + rest.length = 28) {number : Text}
    (isDigits : digits.length = (PduParser.stringToBCD number).length) :
    withNumber (compose front high low type digits rest) number =
      some (compose front
        (lengthDigit (((PduParser.stringToBCD number).length + 2) / 2 / 16))
        (lengthDigit (((PduParser.stringToBCD number).length + 2) / 2 % 16)) type
        (PduParser.stringToBCD number) rest) := by
  have offset := @footerOffset_compose front type digits rest high low isType isFooter
  have length := @length_compose front type digits rest high low isType
  rcases @take_compose front type digits rest high low isType with ⟨before, behind⟩
  have inRange : CxxString.InRange (compose front high low type digits rest)
      ((front.length : Int) + 4) := by
    rw [CxxString.InRange]
    omega
  have place : ((front.length : Int) + 4).toNat = front.length + 4 := by omega
  have afterDigits : (compose front high low type digits rest).drop
      (front.length + 4 + (PduParser.stringToBCD number).length) = rest := by
    rw [← List.drop_drop, behind, ← isDigits, List.drop_left]
  have nonneg : (0 : Int) ≤ front.length := by omega
  have nextNonneg : (0 : Int) ≤ front.length + 1 := by omega
  have next : ((front.length : Int) + 1).toNat = front.length + 1 := by omega
  rw [withNumber, offset, CxxString.replace, if_pos inRange, place, before, afterDigits]
  dsimp only
  rw [CxxString.set, CxxString.set, if_pos nonneg, if_pos nextNonneg, Int.toNat_natCast, next]
  simp only [List.append_assoc, List.cons_append, compose]
  rw [set_first, set_second]

theorem toNat_lengthDigit {value : Nat} (small : value < 16) :
    (lengthDigit value).toNat = '0'.toNat + value := by
  have all : ∀ value : Fin 16, (lengthDigit value.val).toNat = '0'.toNat + value.val := by decide
  exact all ⟨value, small⟩

theorem get_compose (outside : Int → Char) (front type digits rest : Text) (high low : Char) :
    CxxString.get outside (compose front high low type digits rest) front.length = high ∧
      CxxString.get outside (compose front high low type digits rest) (front.length + 1) = low := by
  have length : (compose front high low type digits rest).length =
      front.length + 2 + (type ++ (digits ++ rest)).length := by
    rw [compose, List.length_append, List.length_cons, List.length_cons]
    omega
  have next : ((front.length : Int) + 1).toNat = front.length + 1 := by omega
  constructor
  · rw [CxxString.get, if_pos (by omega), Int.toNat_natCast, compose]
    simp
  · rw [CxxString.get, if_pos (by omega), next, compose]
    simp

theorem octets_of_short {number : Text} (short : number.length ≤ 11) :
    (PduParser.stringToBCD number).length ≤ 12 ∧
      (PduParser.stringToBCD number).length % 2 = 0 := by
  rw [PduParser.length_stringToBCD]
  omega

theorem notMem_compose {null : Char} (notMem : null ∉ compose front high low type digits rest)
    {newHigh newLow : Char} {newDigits : Text} (notHigh : null ≠ newHigh) (notLow : null ≠ newLow)
    (notDigits : null ∉ newDigits) :
    null ∉ compose front newHigh newLow type newDigits rest := by
  simp only [compose, List.mem_append, List.mem_cons, not_or] at notMem ⊢
  exact ⟨notMem.1, notHigh, notLow, notMem.2.2.2.1, notDigits, notMem.2.2.2.2.2⟩

theorem notMem_compose_of_digits (noNull : '\x00' ∉ compose front high low type digits rest)
    {number : Text} (areDigits : ∀ char ∈ number, Decimal.isDigit char = true)
    (short : number.length ≤ 11) :
    '\x00' ∉ compose front
      (lengthDigit (((PduParser.stringToBCD number).length + 2) / 2 / 16))
      (lengthDigit (((PduParser.stringToBCD number).length + 2) / 2 % 16)) type
      (PduParser.stringToBCD number) rest := by
  have octets := octets_of_short short
  have isLength : ∀ value < 16, '\x00' ≠ lengthDigit value := by decide
  apply notMem_compose noNull
  · exact isLength _ (by omega)
  · exact isLength _ (by omega)
  · intro member
    rcases PduParser.mem_stringToBCD member with isFill | inNumber
    · cases isFill
    · exact absurd (areDigits _ inNumber) (by decide)

theorem number_compose (outside : Int → Char) (isType : type.length = 2) {number : Text}
    (isFooter : 4 + (PduParser.stringToBCD number).length + rest.length = 28)
    (short : number.length ≤ 11) (noFill : 'F' ∉ number) :
    PhoneRecord.number outside (compose front
        (lengthDigit (((PduParser.stringToBCD number).length + 2) / 2 / 16))
        (lengthDigit (((PduParser.stringToBCD number).length + 2) / 2 % 16)) type
        (PduParser.stringToBCD number) rest) = some (some number) := by
  have octets := octets_of_short short
  have readBack := PduParser.bcdToString_stringToBCD noFill
  generalize PduParser.stringToBCD number = bcd at isFooter octets readBack ⊢
  have quotient : (bcd.length + 2) / 2 / 16 = 0 := by omega
  have remainder : (bcd.length + 2) / 2 % 16 = (bcd.length + 2) / 2 := by omega
  rw [quotient, remainder]
  have high := toNat_lengthDigit (by omega : 0 < 16)
  have low := toNat_lengthDigit (by omega : (bcd.length + 2) / 2 < 16)
  generalize lengthDigit 0 = highDigit at high ⊢
  generalize lengthDigit ((bcd.length + 2) / 2) = lowDigit at low ⊢
  have offset := @footerOffset_compose front type bcd rest highDigit lowDigit isType isFooter
  have size := @length_compose front type bcd rest highDigit lowDigit isType
  have behind := (@take_compose front type bcd rest highDigit lowDigit isType).2
  rcases get_compose outside front type bcd rest highDigit lowDigit with ⟨isHigh, isLow⟩
  have length : numberLength outside (compose front highDigit lowDigit type bcd rest) =
      (bcd.length + 2) / 2 := by
    rw [numberLength, offset]
    dsimp only
    rw [isHigh, isLow, high, low]
    omega
  have notLong : ¬ maxNumberSizeBytes < numberLength outside
      (compose front highDigit lowDigit type bcd rest) := by
    rw [length, maxNumberSizeBytes]
    omega
  have noCountryCode : ¬ numberLength outside
      (compose front highDigit lowDigit type bcd rest) * 2 = 16 := by
    rw [length]
    omega
  have start : digitsOffset outside (compose front highDigit lowDigit type bcd rest) =
      front.length + 4 := by
    rw [digitsOffset, if_neg noCountryCode, offset]
  have count : digitsCount outside (compose front highDigit lowDigit type bcd rest) =
      bcd.length := by
    rw [digitsCount, if_neg noCountryCode, length]
    omega
  have inRange : CxxString.InRange (compose front highDigit lowDigit type bcd rest)
      ((front.length : Int) + 4) := by
    rw [CxxString.InRange]
    omega
  have place : ((front.length : Int) + 4).toNat = front.length + 4 := by omega
  have nonneg : ¬ (bcd.length : Int) < 0 := by omega
  have digits : CxxString.substrCount (compose front highDigit lowDigit type bcd rest)
      (front.length + 4) bcd.length = some bcd := by
    rw [CxxString.substrCount, CxxString.substr, if_pos inRange, place, behind]
    dsimp only
    rw [if_neg nonneg, Int.toNat_natCast, List.take_left]
  rw [PhoneRecord.number, if_neg notLong, start, count, digits]
  exact congrArg (some ∘ some) readBack

end

end PhoneRecord

namespace SimCard

variable {Element : Type} {api : DocumentApi Element}

theorem getPhoneNumberElement_afterWrite (lawful : api.Lawful) (document : Element)
    (way : List Nat) (text : Text) :
    getPhoneNumberElement api (api.setTextAt document way text) =
      (getPhoneNumberElement api document).map (api.afterWrite way text) := by
  rw [getPhoneNumberElement, getPhoneNumberElement, findFile_afterWrite lawful]
  cases findFile api document (getUsimEFPath efMsisdn) "6F40".toList with
  | none => rfl
  | some ef => exact findAttribute_afterWrite lawful ef "cmd" "B2".toList

section

variable {card : SimCard Element} {document : Element} {elem : Pointer Element}
  {record newRecord number : Text}

theorem setPhoneNumber_eq (isProfile : card.profile = some document)
    (isElement : getPhoneNumberElement api document = some elem)
    (isRecord : api.text elem = some record) (short : number.length ≤ 11)
    (written : PhoneRecord.withNumber record number = some newRecord) :
    card.setPhoneNumber api number =
      some ({ card with profile := some (api.setText document elem newRecord) }, true) := by
  have fits : ¬ PhoneRecord.maxNumberSizeBytes < number.length := by
    rw [PhoneRecord.maxNumberSizeBytes]
    omega
  simp only [setPhoneNumber, if_neg fits, isProfile, isElement, isRecord, written]

theorem getPhoneNumber_setText (lawful : api.Lawful) (outside : Int → Char)
    (isElement : getPhoneNumberElement api document = some elem) (noNull : '\x00' ∉ newRecord) :
    SimCard.getPhoneNumber api
        { card with profile := some (api.setText document elem newRecord) } outside =
      (PhoneRecord.number outside newRecord).map fun found => found.getD [] := by
  have isAfter : getPhoneNumberElement api (api.setText document elem newRecord) =
      some (api.afterWrite elem.way newRecord elem) := by
    rw [setText, takeWhile_of_notMem noNull, getPhoneNumberElement_afterWrite lawful, isElement]
    rfl
  have isText : api.text (api.afterWrite elem.way newRecord elem) = some newRecord := by
    rw [text_afterWrite lawful, if_pos rfl]
  simp only [getPhoneNumber, Option.bind_some, isAfter, isText]

end

/-- Digits are read from octets as they were written, and a number that is set on a card
whose record is long enough is the one that is read. -/
theorem phone_number_round_trip (lawful : api.Lawful) :
    (∀ digits : Text, (∀ char ∈ digits, Decimal.isDigit char = true) →
      PduParser.bcdToString (PduParser.stringToBCD digits) = digits) ∧
    ∀ (card : SimCard Element) (outside : Int → Char) (elem : Pointer Element)
      (record number : Text), card.profile.bind (getPhoneNumberElement api) = some elem →
      api.text elem = some record → '\x00' ∉ record → 28 ≤ record.length →
      (∀ char ∈ number, Decimal.isDigit char = true) → 1 ≤ number.length → number.length ≤ 11 →
      ∃ updated, card.setPhoneNumber api number = some (updated, true) ∧
        updated.getPhoneNumber api outside = some number := by
  constructor
  · intro digits areDigits
    exact PduParser.bcdToString_stringToBCD (PduParser.notMem_fill areDigits)
  · intro card outside elem record number isElement isRecord noNull long areDigits _ short
    cases isProfile : card.profile with
    | none =>
        rw [isProfile] at isElement
        cases isElement
    | some document =>
        rw [isProfile, Option.bind_some] at isElement
        have octets := PhoneRecord.octets_of_short short
        rcases PhoneRecord.exists_compose long (by omega :
            (PduParser.stringToBCD number).length ≤ 24) with
          ⟨front, high, low, type, digits, rest, isComposed, isType, isDigits, isFooter⟩
        have written := @PhoneRecord.withNumber_compose front type digits rest high low isType
          isFooter number isDigits
        rw [← isComposed] at written
        rw [isDigits] at isFooter
        rw [isComposed] at noNull
        have readBack := @PhoneRecord.number_compose front type rest outside isType number
          isFooter short (PduParser.notMem_fill areDigits)
        exact ⟨_, setPhoneNumber_eq isProfile isElement isRecord short written, by
          rw [getPhoneNumber_setText lawful outside isElement
            (PhoneRecord.notMem_compose_of_digits noNull areDigits short), readBack]
          rfl⟩

def emptyRecord : Text := List.replicate 28 'F'

def cardWithRecord (record : Text) : SimCard Tag where
  pins := SimService.sampleService
  profile := some (.mk "IccProfile" [] none
    [.mk "MF" [("path", "3F00".toList)] none
      [.mk "ADF" [("path", "7FFF".toList)] none
        [.mk "EF" [("id", "6F40".toList)] none
          [.mk "SIMIO" [("cmd", "B2".toList)] (some record) []]]]])
  logicalChannels := []
  lastFileId := []

theorem phone_number_round_trip_eight :
    ∃ updated, (cardWithRecord emptyRecord).setPhoneNumber Tag.api "65050123".toList =
        some (updated, true) ∧
      updated.getPhoneNumber Tag.api (fun _ => '0') = some "65050123".toList := by
  have isElement : ((cardWithRecord emptyRecord).profile.bind
      (getPhoneNumberElement Tag.api)).map Tag.api.text = some (some emptyRecord) := by
    decide +kernel
  rcases Option.map_eq_some_iff.mp isElement with ⟨elem, found, isRecord⟩
  exact (phone_number_round_trip Tag.lawful).2 _ _ elem emptyRecord _ found isRecord (by decide)
    (by decide) (List.all_eq_true.mp rfl) (by decide) (by decide)

end SimCard

end Cuttlefish.ModemSimulator
