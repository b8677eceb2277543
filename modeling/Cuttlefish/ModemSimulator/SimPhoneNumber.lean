import Cuttlefish.ModemSimulator.SimFileSystem

/-! # Phone numbers on the SIM

The records of `SimService` that hold a number: the fixed dial numbers and the
number of the SIM itself. Everything of a record but the name is in a footer of
fourteen bytes; a record that is shorter makes `operator[]` read outside of the
text, and `outside` is what stands there. Lengths fit an `int`, and a `char` is
unsigned as on the ARM hosts. -/

namespace Cuttlefish.ModemSimulator

open Xml SimFileSystem

namespace PhoneRecord

def footerSizeBytes : Int := 14
def maxNumberSizeBytes : Int := 11

def footerOffset (record : Text) : Int := record.length - footerSizeBytes * 2

section Reading

variable (outside : Int → Char)

def numberLength (record : Text) : Int :=
  let byte := fun index => ((CxxString.get outside record index).toNat : Int) - '0'.toNat
  byte (footerOffset record) * 16 + byte (footerOffset record + 1)

def digitsOffset (record : Text) : Int :=
  if numberLength outside record * 2 = 16 then footerOffset record + 6
  else footerOffset record + 4

def digitsCount (record : Text) : Int :=
  if numberLength outside record * 2 = 16 then numberLength outside record * 2 - 4
  else numberLength outside record * 2 - 2

/-- The number of a record, if its length is valid; `none` where `substr`
throws. -/
def number (record : Text) : Option (Option Text) :=
  if maxNumberSizeBytes < numberLength outside record then some none
  else
    match CxxString.substrCount record (digitsOffset outside record)
        (digitsCount outside record) with
    | none => none
    | some bcd => some (some (PduParser.bcdToString bcd))

/-- The length of the number is invalid, or the digits start inside the
record. -/
def Readable (record : Text) : Prop :=
  maxNumberSizeBytes < numberLength outside record ∨
    (if numberLength outside record = 8 then 22 else 24) ≤ record.length

end Reading

def lengthDigit (value : Nat) : Char := Char.ofNat ('0'.toNat + value)

/-- The record with another number; `none` where `replace` throws. The source
has a branch for twelve digits, which are refused before. -/
def withNumber (record number : Text) : Option Text :=
  let bcd := PduParser.stringToBCD number
  let newLength := (bcd.length + 2) / 2
  match CxxString.replace record (footerOffset record + 4) bcd.length bcd with
  | none => none
  | some replaced =>
      some (CxxString.set
        (CxxString.set replaced (footerOffset record) (lengthDigit (newLength / 16)))
        (footerOffset record + 1) (lengthDigit (newLength % 16)))

end PhoneRecord

namespace SimCard

variable {Element : Type} (api : DocumentApi Element)

/-! ## Fixed dial numbers -/

def isFDNEnabled (card : SimCard Element) : Bool :=
  card.pins.facilityLock.lookup "FD".toList == some .enable

def fixedDialRecords (document : Element) : List (Pointer Element) :=
  match findFile api document (getUsimEFPath efFdn) "6F3B".toList with
  | none => []
  | some ef => api.childrenNamed ef "SIMIO"

def searchNumber (outside : Int → Char) (wanted : Text) :
    List (Pointer Element) → Option Bool
  | [] => some false
  | final :: rest =>
      match api.text final with
      | none => none
      | some record =>
          match PhoneRecord.number outside record with
          | none => none
          | some none => searchNumber outside wanted rest
          | some (some found) =>
              if found = wanted then some true else searchNumber outside wanted rest

def isFixedDialNumber (card : SimCard Element) (outside : Int → Char) (number : Text) :
    Option Bool :=
  match card.profile with
  | none => some false
  | some document => searchNumber api outside number (fixedDialRecords api document)

def ReadablePointer (outside : Int → Char) (final : Pointer Element) : Prop :=
  ∃ record, api.text final = some record ∧ PhoneRecord.Readable outside record

def HoldsNumber (outside : Int → Char) (wanted : Text) (final : Pointer Element) : Prop :=
  ∃ record, api.text final = some record ∧
    PhoneRecord.number outside record = some (some wanted)

def ReadableUpTo (outside : Int → Char) (wanted : Text) : List (Pointer Element) → Prop
  | [] => True
  | final :: rest =>
      ReadablePointer api outside final ∧
        (HoldsNumber api outside wanted final ∨ ReadableUpTo outside wanted rest)

def getPhoneNumberElement (document : Element) : Option (Pointer Element) :=
  match findFile api document (getUsimEFPath efMsisdn) "6F40".toList with
  | none => none
  | some ef => api.findAttribute ef "cmd" "B2".toList

def getPhoneNumber (card : SimCard Element) (outside : Int → Char) : Option Text :=
  match card.profile.bind (getPhoneNumberElement api) with
  | none => some []
  | some final =>
      match api.text final with
      | none => none
      | some record => (PhoneRecord.number outside record).map fun number => number.getD []

def OwnNumberReadable (card : SimCard Element) (outside : Int → Char) : Prop :=
  ∀ final ∈ card.profile.bind (getPhoneNumberElement api), ReadablePointer api outside final

/-- The document with another number; `none` when nothing is to be written. -/
def setPhoneNumber (card : SimCard Element) (number : Text) :
    Option (SimCard Element × Bool) :=
  if PhoneRecord.maxNumberSizeBytes < number.length then some (card, false)
  else
    match card.profile with
    | none => some (card, false)
    | some document =>
        match getPhoneNumberElement api document with
        | none => some (card, false)
        | some elem =>
            match api.text elem with
            | none => none
            | some record =>
                match PhoneRecord.withNumber record number with
                | none => none
                | some record =>
                    some ({ card with profile := some (api.setText document elem record) },
                      true)

def OwnNumberWritable (card : SimCard Element) (number : Text) : Prop :=
  PhoneRecord.maxNumberSizeBytes < number.length ∨
    ∀ elem ∈ card.profile.bind (getPhoneNumberElement api),
      ∃ record, api.text elem = some record ∧ 24 ≤ record.length

/-- `AT+REMOTEUPADATEPHONENUMBER`. -/
def handlePhoneNumberUpdate (card : SimCard Element) (command : Text) :
    Option (SimCard Element) :=
  (card.setPhoneNumber api
    (CommandParser.getNextStrUntil ' ' (CommandParser.skipWhiteSpace command)).1).map Prod.fst

end SimCard

end Cuttlefish.ModemSimulator
