import Cuttlefish.Foundation.Decimal

/-! # PDU format builder

`PDUFormatBuilder` of `host/commands/cvd_send_sms`: the text by which a short message is
sent to the modem simulator. -/

namespace Cuttlefish.CvdSendSms

/-- The GSM 7 bit default alphabet; `U+FFFF` stands in the place of the escape. -/
def gsm7BitDefaultAlphabet : List Char :=
  "@£$¥èéùìòÇ\nØø\rÅåΔ_ΦΓΛΩΠΨΣΘΞ\uffffÆæßÉ !\"#¤%&'()*+,-./0123456789:;<=>?".toList ++
    "¡ABCDEFGHIJKLMNOPQRSTUVWXYZÄÖÑÜ§¿abcdefghijklmnopqrstuvwxyzäöñüà".toList

def gsm7Code (uchar : UInt16) : Option (BitVec 8) :=
  if 0xD800 ≤ uchar ∧ uchar ≤ 0xDFFF then none
  else (gsm7BitDefaultAlphabet.idxOf? (Char.ofNat uchar.toNat)).map (BitVec.ofNat 8)

structure Octets where
  octets : List (BitVec 8)
  index : Nat
  bitsToWriteInPrevOctet : Nat

def Octets.write (state : Octets) (hasPrevious : Bool) (code : BitVec 8) : Octets :=
  let bits := state.bitsToWriteInPrevOctet
  let octets :=
    if hasPrevious then
      state.octets.modify (state.index - 1) fun octet => code <<< (8 - bits) ||| octet
    else state.octets
  if bits < 7 then ⟨octets.set state.index (code >>> bits), state.index + 1, bits + 1⟩
  else ⟨octets, state.index, 0⟩

/-- The loop in `Gsm7bitEncode`; `none` for a character that is not in the alphabet. -/
def packUnits (state : Octets) (hasPrevious : Bool) : List UInt16 → Option Octets
  | [] => some state
  | uchar :: rest =>
      match gsm7Code uchar with
      | none => none
      | some code => packUnits (state.write hasPrevious code) true rest

def decimalToHexString (number : Nat) : Text :=
  let digits := Nat.toDigits 16 number
  List.replicate (2 - digits.length) '0' ++ digits

def gsm7bitEncode (unicode : List UInt16) : Text :=
  let octetsSize := unicode.length - unicode.length / 8
  match packUnits ⟨List.replicate octetsSize 0, 0, 0⟩ false unicode with
  | none => []
  | some state => state.octets.flatMap fun octet => decimalToHexString octet.toNat

def withoutPlus (number : Text) : Text :=
  if number.head? = some '+' then number.drop 1 else number

def isValidE164PhoneNumber (number : Text) : Bool :=
  match withoutPlus number with
  | [] => false
  | first :: rest =>
      Decimal.isDigit first && first != '0' && rest.all Decimal.isDigit &&
        decide (1 ≤ rest.length ∧ rest.length ≤ 14)

def semiOctetsEncode : Text → Text
  | first :: second :: rest => second :: first :: semiOctetsEncode rest
  | [last] => ['f', last]
  | [] => []

/-- `PDUFormatBuilder::Build`. The UTF-16 units of the user data are those that
`icu::UnicodeString` finds in it. -/
def build (unicodeString : Text → List UInt16) (userData senderNumber : Text) : Text :=
  if userData = [] ∨ senderNumber = [] ∨ isValidE164PhoneNumber senderNumber = false then []
  else
    let unicode := unicodeString userData
    let number := withoutPlus senderNumber
    if 160 < unicode.length then []
    else
      let encoded := gsm7bitEncode unicode
      if encoded = [] then []
      else
        "000100".toList ++ decimalToHexString number.length ++ "91".toList ++
          semiOctetsEncode number ++ "00".toList ++ "00".toList ++
          decimalToHexString unicode.length ++ encoded

example : build (fun text => text.map fun char => char.toNat.toUInt16) "cccccccc".toList
    "+16501234567".toList = "0001000b916105214365f7000008e3f1783c1e8fc7".toList := by decide +kernel

/-! ## Lengths -/

theorem length_write (state : Octets) (hasPrevious : Bool) (code : BitVec 8) :
    (state.write hasPrevious code).octets.length = state.octets.length := by
  rw [Octets.write]
  cases hasPrevious with
  | false =>
      simp only [Bool.false_eq_true, ↓reduceIte]
      split
      · exact List.length_set
      · rfl
  | true =>
      simp only [↓reduceIte]
      split
      · rw [List.length_set, List.length_modify]
      · exact List.length_modify ..

theorem length_packUnits {state packed : Octets} {hasPrevious : Bool} {unicode : List UInt16}
    (isPacked : packUnits state hasPrevious unicode = some packed) :
    packed.octets.length = state.octets.length := by
  induction unicode generalizing state hasPrevious with
  | nil => rw [Option.some.inj isPacked]
  | cons uchar rest induction =>
      rw [packUnits] at isPacked
      split at isPacked
      · exact nomatch isPacked
      · rw [induction isPacked, length_write]

theorem length_decimalToHexString {number : Nat} (small : number < 256) :
    (decimalToHexString number).length = 2 := by
  have all : ∀ number : Fin 256, (decimalToHexString number.val).length = 2 := by decide +kernel
  exact all ⟨number, small⟩

theorem length_printOctets (octets : List (BitVec 8)) :
    (octets.flatMap fun octet => decimalToHexString octet.toNat).length = 2 * octets.length := by
  induction octets with
  | nil => rfl
  | cons octet rest induction =>
      rw [List.flatMap_cons, List.length_append, length_decimalToHexString octet.isLt, induction,
        List.length_cons]
      omega

theorem length_gsm7bitEncode {unicode : List UInt16} (some : gsm7bitEncode unicode ≠ []) :
    (gsm7bitEncode unicode).length = 2 * (unicode.length - unicode.length / 8) := by
  unfold gsm7bitEncode at some ⊢
  dsimp only at some ⊢
  split at some
  · exact absurd rfl some
  next state isPacked =>
    have size := length_packUnits isPacked
    rw [List.length_replicate] at size
    rw [length_printOctets, size]

theorem length_semiOctetsEncode (number : Text) :
    (semiOctetsEncode number).length = number.length + number.length % 2 := by
  induction number using semiOctetsEncode.induct with
  | case1 first second rest induction =>
      simp only [semiOctetsEncode, List.length_cons, induction]
      omega
  | case2 last => rfl
  | case3 => rfl

end Cuttlefish.CvdSendSms
