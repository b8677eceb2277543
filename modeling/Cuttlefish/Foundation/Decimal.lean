import Mathlib.Algebra.Group.Nat.Defs
import Mathlib.Data.List.TakeWhile

/-! # Decimal numbers as text

How the C and C++ libraries read and print integers in base 10. A character
stands for one byte of a string. -/

namespace Cuttlefish

abbrev Text := List Char

instance : LawfulBEq Text := inferInstanceAs (LawfulBEq (List Char))

namespace Decimal

def isSpace (char : Char) : Bool :=
  char == ' ' || ('\t'.toNat ≤ char.toNat && char.toNat ≤ '\r'.toNat)

def isDigit (char : Char) : Bool := '0'.toNat ≤ char.toNat && char.toNat ≤ '9'.toNat

def digitsValue (digits : Text) : Nat := Nat.ofDigitChars 10 digits 0

def splitSign : Text → Bool × Text
  | '-' :: rest => (true, rest)
  | '+' :: rest => (false, rest)
  | text => (false, text)

/-- The number at the start of a text, unbounded; `none` when there is no
digit. -/
def scan (text : Text) : Option Int :=
  let (negative, rest) := splitSign (text.dropWhile isSpace)
  let digits := rest.takeWhile isDigit
  if digits.isEmpty then none
  else if negative then some (-(digitsValue digits : Int))
  else some (digitsValue digits)

def strtol (text : Text) : Option Int :=
  match scan text with
  | none => none
  | some value =>
      if -9223372036854775808 ≤ value ∧ value ≤ 9223372036854775807 then some value else none

def FitsInt (value : Int) : Prop := -2147483648 ≤ value ∧ value ≤ 2147483647

instance (value : Int) : Decidable (FitsInt value) := inferInstanceAs (Decidable (_ ∧ _))

def stoi (text : Text) : Option Int :=
  match strtol text with
  | none => none
  | some value => if FitsInt value then some value else none

/-- After white space and a sign the text starts with digits of a number that an
`int` can hold. -/
def StartsWithInt (text : Text) : Prop := ∃ value, scan text = some value ∧ FitsInt value

def toInt (value : Int) : Int := value.bmod 4294967296

def print : Int → Text
  | .ofNat value => Nat.toDigits 10 value
  | .negSucc value => '-' :: Nat.toDigits 10 (value + 1)

theorem isSome_stoi (text : Text) : (stoi text).isSome = true ↔ StartsWithInt text := by
  rw [stoi, strtol, StartsWithInt]
  cases scan text with
  | none => simp
  | some value =>
      by_cases fits : FitsInt value
      · have inLong : -9223372036854775808 ≤ value ∧ value ≤ 9223372036854775807 := by
          rw [FitsInt] at fits
          omega
        simp [fits, inLong]
      · by_cases inLong : -9223372036854775808 ≤ value ∧ value ≤ 9223372036854775807
        · simp [fits, inLong]
        · simp [fits, inLong]

/-! ## Printing and reading back -/

theorem isDigit_of_mem_toDigits {char : Char} {value : Nat}
    (member : char ∈ Nat.toDigits 10 value) : isDigit char = true := by
  have digit := Nat.isDigit_of_mem_toDigits (b := 10) (by decide) (by decide) member
  simp only [Char.isDigit, Bool.and_eq_true, decide_eq_true_eq, ge_iff_le,
    UInt32.le_iff_toNat_le] at digit
  simpa [isDigit] using digit

theorem isSpace_of_isDigit {char : Char} (digit : isDigit char = true) :
    isSpace char = false := by
  simp only [isDigit, Bool.and_eq_true, decide_eq_true_eq] at digit
  simp only [isSpace, Bool.or_eq_false_iff, Bool.and_eq_false_iff, decide_eq_false_iff_not]
  refine ⟨?_, .inr ?_⟩
  · simp only [beq_eq_false_iff_ne]
    intro same
    subst same
    exact absurd digit.1 (by decide)
  · intro small
    have nine : '\r'.toNat = 13 := rfl
    have zero : '0'.toNat = 48 := rfl
    omega

private theorem splitSign_of_isDigit {digits : Text}
    (all : ∀ char ∈ digits, isDigit char = true) : splitSign digits = (false, digits) := by
  unfold splitSign
  split
  · rename_i rest
    exact absurd (all '-' (by simp)) (by decide)
  · rename_i rest
    exact absurd (all '+' (by simp)) (by decide)
  · rfl

private theorem dropWhile_of_isDigit {digits : Text}
    (all : ∀ char ∈ digits, isDigit char = true) : digits.dropWhile isSpace = digits := by
  cases digits with
  | nil => rfl
  | cons first rest =>
      have notSpace := isSpace_of_isDigit (all first (by simp))
      simp [notSpace]

theorem scan_of_isDigit {digits : Text} (all : ∀ char ∈ digits, isDigit char = true)
    (nonempty : digits ≠ []) : scan digits = some (digitsValue digits : Int) := by
  simp [scan, dropWhile_of_isDigit all, splitSign_of_isDigit all,
    List.takeWhile_eq_self_iff.mpr all, nonempty]

theorem scan_print (value : Int) : scan (print value) = some value := by
  have digits : ∀ number : Nat, ∀ char ∈ Nat.toDigits 10 number, isDigit char = true :=
    fun _ _ member => isDigit_of_mem_toDigits member
  cases value with
  | ofNat value =>
      rw [print, scan_of_isDigit (digits value) Nat.toDigits_ne_nil]
      simp [digitsValue, Nat.ofDigitChars_ten_toDigits]
  | negSucc value =>
      have sign : isSpace '-' = false := by decide
      simp [scan, print, sign, splitSign, List.takeWhile_eq_self_iff.mpr (digits (value + 1)),
        Nat.toDigits_ne_nil, digitsValue, Nat.ofDigitChars_ten_toDigits, Int.negSucc_eq]

theorem stoi_print {value : Int} (fits : FitsInt value) : stoi (print value) = some value := by
  have inLong : -9223372036854775808 ≤ value ∧ value ≤ 9223372036854775807 := by
    rw [FitsInt] at fits
    omega
  have long : strtol (print value) = some value := by
    rw [strtol, scan_print]
    exact if_pos inLong
  rw [stoi, long]
  exact if_pos fits

theorem print_ne_nul {value : Int} {char : Char} (member : char ∈ print value) :
    char ≠ '\x00' := by
  have digits : ∀ number : Nat, ∀ char ∈ Nat.toDigits 10 number, char ≠ '\x00' := by
    intro number char member same
    subst same
    exact absurd (isDigit_of_mem_toDigits member) (by decide)
  cases value with
  | ofNat value => exact digits value char member
  | negSucc value =>
      rcases List.mem_cons.mp member with equal | member
      · rw [equal]
        decide
      · exact digits (value + 1) char member

end Decimal

end Cuttlefish
