import Cuttlefish.ModemSimulator.PduFields

/-! # Messages between simulators

What `CreateRemotePDU` makes of a message for the simulator at a port, as the parser there
reads it. -/

namespace Cuttlefish.ModemSimulator

open PduParser PduFields

/-! ## The digits of an address -/

def skippedSize (address : Text) : Nat := if address.length = 18 then 6 else 4

theorem four_le_skippedSize (address : Text) : 4 ≤ skippedSize address := by
  rw [skippedSize]
  split <;> omega

theorem skippedSize_le {address : Text} (long : 4 ≤ address.length) :
    skippedSize address ≤ address.length := by
  rw [skippedSize]
  split <;> omega

theorem getPhoneNumberFromAddress_eq {parser : PduParser} (valid : parser.isValidPdu = true)
    (long : 4 ≤ parser.originatorAddress.length) :
    parser.getPhoneNumberFromAddress =
      some (bcdToString
        (parser.originatorAddress.drop (skippedSize parser.originatorAddress))) := by
  have fits := skippedSize_le long
  rw [getPhoneNumberFromAddress, if_pos valid]
  rw [skippedSize] at fits ⊢
  split
  next isLong =>
    have inRange : CxxString.InRange parser.originatorAddress 6 := ⟨by decide, by omega⟩
    dsimp only
    rw [CxxString.substr, if_pos inRange]
    rfl
  next =>
    have inRange : CxxString.InRange parser.originatorAddress 4 := ⟨by decide, by omega⟩
    dsimp only
    rw [CxxString.substr, if_pos inRange]
    rfl

theorem bcdToString_cases {digits : Text} (even : digits.length % 2 = 0) :
    (bcdToString digits).length = digits.length ∨
      (bcdToString digits).length + 1 = digits.length := by
  have swapped := length_swapDigits even
  have same := swapDigits_swapDigits even
  have swappedEven : (swapDigits digits).length % 2 = 0 := by omega
  have number := bcdToString_swapDigits swappedEven
  rw [same] at number
  rw [number]
  split
  next isFill =>
    refine .inr ?_
    have some : swapDigits digits ≠ [] := by
      intro isNil
      rw [isNil] at isFill
      cases isFill
    have positive := List.length_pos_iff.mpr some
    rw [List.length_dropLast]
    omega
  next => exact .inl swapped

theorem swapDigits_append {front : Text} (even : front.length % 2 = 0) (behind : Text) :
    swapDigits (front ++ behind) = swapDigits front ++ swapDigits behind := by
  induction front using swapDigits.induct with
  | case1 first second rest induction =>
      rw [List.length_cons, List.length_cons] at even
      simp only [List.cons_append, swapDigits, induction (by omega)]
  | case2 front short =>
      cases front with
      | nil => rfl
      | cons first rest =>
          cases rest with
          | nil => cases even
          | cons second rest => exact absurd rfl (short first second rest)

theorem bcdToString_eq_swapDigits {front : Text} (even : front.length % 2 = 0)
    {first second : Char} (noFill : first ≠ 'F') :
    bcdToString (front ++ [first, second]) = swapDigits (front ++ [first, second]) := by
  have length : (front ++ [first, second]).length % 2 = 0 := by
    rw [List.length_append, List.length_cons, List.length_singleton]
    omega
  have last : (swapDigits (front ++ [first, second])).getLast? = some first := by
    rw [swapDigits_append even]
    simp [swapDigits]
  rw [bcdToString, if_neg (by omega), last, if_neg]
  intro isFill
  exact noFill (Option.some.inj isFill)

/-! ## The number of the other simulator -/

/-- The number with its last four digits replaced. -/
def withPort (number hostPort : Text) : Text := number.take (number.length - 4) ++ hostPort

section

variable {number hostPort : Text}

theorem remoteNumber_eq (long : 4 ≤ number.length) (port : hostPort.length = 4) :
    remoteNumber number hostPort =
      if number.length % 2 = 1 then withPort number hostPort ++ ['F']
      else withPort number hostPort := by
  have length : (withPort number hostPort).length = number.length := by
    rw [withPort, List.length_append, List.length_take]
    omega
  have isReplaced : dropEnd number 4 ++ hostPort = withPort number hostPort := by
    rw [dropEnd, if_neg (by omega), withPort]
  simp only [remoteNumber, isReplaced, length]

theorem length_remoteNumber (long : 4 ≤ number.length) (port : hostPort.length = 4) :
    (remoteNumber number hostPort).length = number.length + number.length % 2 := by
  have length : (withPort number hostPort).length = number.length := by
    rw [withPort, List.length_append, List.length_take]
    omega
  rw [remoteNumber_eq long port]
  split
  · rw [List.length_append, List.length_singleton]
    omega
  · omega

theorem bcdToString_remoteNumber (long : 4 ≤ number.length) (port : hostPort.length = 4)
    (digits : ∀ char ∈ hostPort, Decimal.isDigit char = true) :
    bcdToString (remoteNumber number hostPort) = swapDigits (remoteNumber number hostPort) := by
  match hostPort with
  | [first, second, third, fourth] =>
      rw [remoteNumber_eq long port, withPort]
      split
      next odd =>
        have split : number.take (number.length - 4) ++ [first, second, third, fourth] ++ ['F'] =
            (number.take (number.length - 4) ++ [first, second, third]) ++ [fourth, 'F'] := by
          simp only [List.append_assoc, List.cons_append, List.nil_append]
        rw [split]
        apply bcdToString_eq_swapDigits
        · simp only [List.length_append, List.length_take, List.length_cons, List.length_nil]
          omega
        · exact isDigit_ne_fill (digits fourth (by simp))
      next even =>
        have split : number.take (number.length - 4) ++ [first, second, third, fourth] =
            (number.take (number.length - 4) ++ [first, second]) ++ [third, fourth] := by
          simp only [List.append_assoc, List.cons_append, List.nil_append]
        rw [split]
        apply bcdToString_eq_swapDigits
        · simp only [List.length_append, List.length_take, List.length_cons, List.length_nil]
          omega
        · exact isDigit_ne_fill (digits third (by simp))

theorem bcdToString_swapped (long : 4 ≤ number.length) (port : hostPort.length = 4)
    (digits : ∀ char ∈ hostPort, Decimal.isDigit char = true) :
    bcdToString (swapDigits (remoteNumber number hostPort)) = withPort number hostPort := by
  have length := length_remoteNumber long port
  have whole : (withPort number hostPort).length = number.length := by
    rw [withPort, List.length_append, List.length_take]
    omega
  rw [bcdToString_swapDigits (by omega), remoteNumber_eq long port]
  by_cases odd : number.length % 2 = 1
  · rw [if_pos odd, List.getLast?_concat, if_pos rfl, List.dropLast_concat]
  · rw [if_neg odd, if_neg]
    intro isFill
    have some : hostPort ≠ [] := by
      intro isNil
      rw [isNil] at port
      cases port
    rw [withPort, List.getLast?_append, List.getLast?_eq_some_getLast some] at isFill
    exact isDigit_ne_fill (digits _ (List.getLast_mem some)) (Option.some.inj isFill)

end

/-! ## The message for the other simulator -/

def renumbered (fields : PduFields) (digits : Text) : PduFields :=
  { fields with
    smsc := withoutServiceCenterAddress
    originatorAddress := fields.originatorAddress.take (skippedSize fields.originatorAddress) ++
      digits }

section

variable {fields : PduFields} {digits : Text}

theorem length_renumbered (long : 4 ≤ fields.originatorAddress.length)
    (size : skippedSize fields.originatorAddress + digits.length =
      fields.originatorAddress.length) :
    (renumbered fields digits).originatorAddress.length = fields.originatorAddress.length ∧
      (renumbered fields digits).originatorAddress.drop
        (skippedSize fields.originatorAddress) = digits := by
  have fits := skippedSize_le long
  have front : (fields.originatorAddress.take (skippedSize fields.originatorAddress)).length =
      skippedSize fields.originatorAddress := by
    rw [List.length_take, Nat.min_eq_left fits]
  constructor
  · rw [renumbered, List.length_append, front, size]
  · rw [renumbered, List.drop_left' front]

theorem sized_renumbered (sized : fields.Sized)
    (size : skippedSize fields.originatorAddress + digits.length =
      fields.originatorAddress.length) :
    8 ≤ (renumbered fields digits).text.length ∧ (renumbered fields digits).Sized := by
  have least := four_le_skippedSize fields.originatorAddress
  have long : 4 ≤ fields.originatorAddress.length := by omega
  have length := (length_renumbered long size).1
  have two : (renumbered fields digits).originatorAddress.take 2 =
      fields.originatorAddress.take 2 := by
    rw [renumbered, List.take_append_of_le_length, List.take_take, Nat.min_eq_left (by omega)]
    rw [List.length_take]
    omega
  have zero : hex2ToByte ((renumbered fields digits).text.take 2) = 0 := by
    have isZero : (renumbered fields digits).text.take 2 = withoutServiceCenterAddress := rfl
    rw [isZero]
    decide
  constructor
  · have type : (renumbered fields digits).pduType.length = 2 := sized.pduType
    have smsc : (renumbered fields digits).smsc.length = 2 := rfl
    simp only [text, List.length_append, length, smsc, type]
    omega
  · refine ⟨?_, sized.pduType, sized.messageReference, ?_, sized.protocolId, sized.dataCodeScheme,
      sized.userData⟩
    · rw [zero]
      rfl
    · rw [length, two, sized.originatorAddress]

theorem decodePDU_renumbered (sized : fields.Sized)
    (size : skippedSize fields.originatorAddress + digits.length =
      fields.originatorAddress.length) :
    PduParser.decodePDU (renumbered fields digits).text = (renumbered fields digits).parsed ∧
      (renumbered fields digits).parsed.getPhoneNumberFromAddress = some (bcdToString digits) := by
  have least := four_le_skippedSize fields.originatorAddress
  have long : 4 ≤ fields.originatorAddress.length := by omega
  rcases length_renumbered long size with ⟨length, isDigits⟩
  rcases sized_renumbered sized size with ⟨enough, isSized⟩
  have sameSkip : skippedSize (renumbered fields digits).parsed.originatorAddress =
      skippedSize fields.originatorAddress := by
    change skippedSize (renumbered fields digits).originatorAddress = _
    rw [skippedSize, skippedSize, length]
  refine ⟨isSized.decodePDU enough, ?_⟩
  have read := @getPhoneNumberFromAddress_eq (renumbered fields digits).parsed rfl
    (length.symm ▸ long)
  rw [read, sameSkip]
  exact congrArg (some ∘ bcdToString) isDigits

end

/-- The message for the simulator at a port is a PDU with the same fields, but for the last
four digits of the number, which are the port. -/
theorem createRemotePDU_renumbers (pdu hostPort number : Text)
    (valid : (PduParser.decodePDU pdu).isValidPdu = true)
    (isNumber : (PduParser.decodePDU pdu).getPhoneNumberFromAddress = some number)
    (size : number.length = 4 ∨ number.length = 11) (port : hostPort.length = 4)
    (digits : ∀ char ∈ hostPort, Decimal.isDigit char = true) :
    ∃ remote, (PduParser.decodePDU pdu).createRemotePDU hostPort = some remote ∧
      (PduParser.decodePDU remote).isValidPdu = true ∧
      (PduParser.decodePDU remote).getPhoneNumberFromAddress = some (withPort number hostPort) ∧
      (PduParser.decodePDU remote).pduType = (PduParser.decodePDU pdu).pduType ∧
      (PduParser.decodePDU remote).messageReference =
        (PduParser.decodePDU pdu).messageReference ∧
      (PduParser.decodePDU remote).protocolId = (PduParser.decodePDU pdu).protocolId ∧
      (PduParser.decodePDU remote).dataCodeScheme = (PduParser.decodePDU pdu).dataCodeScheme ∧
      (PduParser.decodePDU remote).userData = (PduParser.decodePDU pdu).userData := by
  rcases sized_ofText valid with ⟨-, -, sized⟩
  generalize isFields : ofText pdu = fields at sized
  have address : (PduParser.decodePDU pdu).originatorAddress = fields.originatorAddress := by
    rw [← isFields]
    rfl
  have long : 4 ≤ fields.originatorAddress.length ∧ fields.originatorAddress.length % 2 = 0 := by
    have lower := neg_one_le_hex2ToByte (fields.originatorAddress.take 2)
    have length := sized.originatorAddress
    rw [evenLength] at length
    split at length <;> omega
  have fits := skippedSize_le long.1
  have evenSkip : skippedSize fields.originatorAddress % 2 = 0 := by
    rw [skippedSize]
    split <;> rfl
  rw [getPhoneNumberFromAddress_eq valid (address ▸ long.1), address] at isNumber
  have isNumber := Option.some.inj isNumber
  -- The new number fills as many octets as the old one.
  have sameSize : skippedSize fields.originatorAddress + (remoteNumber number hostPort).length =
      fields.originatorAddress.length := by
    have cases := @bcdToString_cases
      (fields.originatorAddress.drop (skippedSize fields.originatorAddress))
      (by rw [List.length_drop]; omega)
    rw [isNumber, List.length_drop] at cases
    rw [length_remoteNumber (by omega) port]
    omega
  have swapped : (swapDigits (remoteNumber number hostPort)).length =
      (remoteNumber number hostPort).length := by
    apply length_swapDigits
    rw [length_remoteNumber (by omega) port]
    omega
  rcases decodePDU_renumbered sized (swapped ▸ sameSize) with ⟨isDecoded, isRead⟩
  rw [bcdToString_swapped (by omega) port digits] at isRead
  have kept : dropEnd fields.originatorAddress (remoteNumber number hostPort).length =
      fields.originatorAddress.take (skippedSize fields.originatorAddress) := by
    rw [dropEnd, if_neg (by omega), ← sameSize, Nat.add_sub_cancel]
  refine ⟨(renumbered fields (swapDigits (remoteNumber number hostPort))).text, ?_, ?_⟩
  · have proceeds : ¬ (hostPort.length ≠ 4 ∨ (PduParser.decodePDU pdu).isValidPdu = false) := by
      rw [valid]
      simp [port]
    have isRead : (PduParser.decodePDU pdu).getPhoneNumberFromAddress = some number := by
      rw [getPhoneNumberFromAddress_eq valid (address ▸ long.1), address, isNumber]
    rw [createRemotePDU, if_neg proceeds, isRead, address]
    dsimp only
    rw [kept, bcdToString_remoteNumber (by omega) port digits, ← isFields]
    simp only [renumbered, text, ofText, List.append_assoc]
  · rw [isDecoded]
    refine ⟨rfl, isRead, ?_⟩
    rw [← isFields]
    exact ⟨rfl, rfl, rfl, rfl, rfl⟩

def emptyMessage : Text :=
  ['0', '0', '0', '1', '0', '0', '0', 'D', '9', '1', '6', '8', '8', '1', '1', '8', '1', '0', '9',
   '8', '4', '4', 'F', '0', '0', '0', '0', '0', '0', '0']

theorem createRemotePDU_renumbers_emptyMessage :
    ∃ remote,
      (PduParser.decodePDU emptyMessage).createRemotePDU ['6', '5', '2', '1'] = some remote ∧
      (PduParser.decodePDU remote).isValidPdu = true ∧
      (PduParser.decodePDU remote).getPhoneNumberFromAddress =
        some (withPort ['1', '8', '8', '1', '0', '1', '8', '9', '4', '4', '0']
          ['6', '5', '2', '1']) := by
  rcases createRemotePDU_renumbers emptyMessage ['6', '5', '2', '1']
    ['1', '8', '8', '1', '0', '1', '8', '9', '4', '4', '0'] (by decide +kernel) (by decide +kernel)
    (.inr rfl) rfl (List.all_eq_true.mp rfl) with ⟨remote, isRemote, valid, number, -⟩
  exact ⟨remote, isRemote, valid, number⟩

end Cuttlefish.ModemSimulator
