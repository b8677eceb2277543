import Cuttlefish.Foundation.Decimal

/-! # Hexadecimal numbers as text

How the C and C++ libraries read and print integers in base 16. -/

namespace Cuttlefish

namespace Hexadecimal

def digit (char : Char) : Option Nat :=
  if '0'.toNat ≤ char.toNat ∧ char.toNat ≤ '9'.toNat then some (char.toNat - '0'.toNat)
  else if 'A'.toNat ≤ char.toNat ∧ char.toNat ≤ 'F'.toNat then
    some (char.toNat - 'A'.toNat + 10)
  else if 'a'.toNat ≤ char.toNat ∧ char.toNat ≤ 'f'.toNat then
    some (char.toNat - 'a'.toNat + 10)
  else none

def isDigit (char : Char) : Bool := (digit char).isSome

def digitsValue (digits : Text) : Nat :=
  digits.foldl (fun value char => 16 * value + (digit char).getD 0) 0

def skipMarker : Text → Text
  | '0' :: marker :: first :: rest =>
      if (marker = 'x' ∨ marker = 'X') ∧ isDigit first = true then first :: rest
      else '0' :: marker :: first :: rest
  | text => text

/-- The number at the start of a text, unbounded; `none` when there is no
digit. -/
def scan (text : Text) : Option Int :=
  let (negative, rest) := Decimal.splitSign (text.dropWhile Decimal.isSpace)
  let digits := (skipMarker rest).takeWhile isDigit
  if digits.isEmpty then none
  else if negative then some (-(digitsValue digits : Int))
  else some (digitsValue digits)

def stoi (text : Text) : Option Int :=
  match scan text with
  | none => none
  | some value => if Decimal.FitsInt value then some value else none

/-- After white space, a sign and `0x` the text starts with digits of a number
that an `int` can hold. -/
def StartsWithInt (text : Text) : Prop := ∃ value, scan text = some value ∧ Decimal.FitsInt value

theorem isSome_stoi (text : Text) : (stoi text).isSome = true ↔ StartsWithInt text := by
  rw [stoi, StartsWithInt]
  cases scan text with
  | none => simp
  | some value => by_cases fits : Decimal.FitsInt value <;> simp [fits]

def printDigit (value : Nat) : Char := Char.toUpper (Nat.digitChar value)

def printNat (value : Nat) : Text := (Nat.toDigits 16 value).map Char.toUpper

def print (value : Int) : Text := printNat (value % 4294967296).toNat

/-! ## Printing and reading back -/

private theorem digit_printDigit :
    ∀ value < 16, digit (printDigit value) = some value := by decide

private theorem notSpace_printDigit :
    ∀ value < 16, Decimal.isSpace (printDigit value) = false ∧ printDigit value ≠ '-' ∧
      printDigit value ≠ '+' ∧ printDigit value ≠ 'x' ∧ printDigit value ≠ 'X' := by decide

theorem printNat_eq (value : Nat) :
    printNat value =
      if value < 16 then [printDigit value]
      else printNat (value / 16) ++ [printDigit (value % 16)] := by
  rw [printNat]
  rw [Nat.toDigits_eq_if (by decide)]
  split
  · rfl
  · rw [List.map_append]
    rfl

theorem printNat_forall (property : Char → Prop)
    (digits : ∀ value < 16, property (printDigit value)) (value : Nat) :
    ∀ char ∈ printNat value, property char := by
  induction value using Nat.strongRecOn with
  | ind value induction =>
      intro char member
      rw [printNat_eq] at member
      split at member
      · rename_i small
        rw [List.mem_singleton.mp member]
        exact digits value small
      · rename_i large
        rcases List.mem_append.mp member with earlier | last
        · exact induction (value / 16) (by omega) char earlier
        · rw [List.mem_singleton.mp last]
          exact digits (value % 16) (Nat.mod_lt _ (by decide))

theorem digitsValue_printNat (value : Nat) : digitsValue (printNat value) = value := by
  induction value using Nat.strongRecOn with
  | ind value induction =>
      rw [printNat_eq]
      split
      · rename_i small
        simp [digitsValue, digit_printDigit value small]
      · rename_i large
        have high := induction (value / 16) (by omega)
        have low := digit_printDigit (value % 16) (Nat.mod_lt _ (by decide))
        rw [digitsValue] at high ⊢
        rw [List.foldl_append, high]
        simp only [List.foldl_cons, List.foldl_nil, low, Option.getD_some]
        omega

private theorem printNat_ne_nil (value : Nat) : printNat value ≠ [] := by
  simp [printNat, Nat.toDigits_ne_nil]

theorem scan_printNat (value : Nat) : scan (printNat value) = some (value : Int) := by
  have isDigits := printNat_forall (fun char => isDigit char = true)
    (fun digit small => by simp [isDigit, digit_printDigit digit small]) value
  have plain := printNat_forall (fun char => Decimal.isSpace char = false ∧ char ≠ '-' ∧
    char ≠ '+' ∧ char ≠ 'x' ∧ char ≠ 'X') notSpace_printDigit value
  have all : (printNat value).takeWhile isDigit = printNat value := by
    rw [List.takeWhile_eq_self_iff]
    exact isDigits
  cases digits : printNat value with
  | nil => exact absurd digits (printNat_ne_nil value)
  | cons first rest =>
      rw [digits] at plain all
      rcases plain first (by simp) with ⟨notSpace, notMinus, notPlus, -, -⟩
      have trimmed : (first :: rest).dropWhile Decimal.isSpace = first :: rest := by
        simp [notSpace]
      have unsigned : Decimal.splitSign (first :: rest) = (false, first :: rest) := by
        unfold Decimal.splitSign
        split
        · rename_i equal
          exact absurd (List.cons.inj equal).1 notMinus
        · rename_i equal
          exact absurd (List.cons.inj equal).1 notPlus
        · rfl
      have unmarked : skipMarker (first :: rest) = first :: rest := by
        unfold skipMarker
        split
        · rename_i marker next others equal
          have second : marker ∈ first :: rest := by simp [equal]
          rcases plain marker second with ⟨-, -, -, notLower, notUpper⟩
          rw [if_neg (by simp [notLower, notUpper]), equal]
        · rfl
      have total := digitsValue_printNat value
      rw [digits] at total
      simp only [scan, trimmed, unsigned, unmarked, all, total, List.isEmpty_cons,
        Bool.false_eq_true, if_false]

theorem stoi_print {value : Int} (fits : Decimal.FitsInt value) :
    stoi (print value) = if 0 ≤ value then some value else none := by
  rw [stoi, print]
  rw [scan_printNat]
  have bounds := fits
  rw [Decimal.FitsInt] at bounds
  by_cases nonneg : 0 ≤ value
  · have same : ((value % 4294967296).toNat : Int) = value := by omega
    simp [same, nonneg, fits]
  · have large : ¬Decimal.FitsInt ((value % 4294967296).toNat : Int) := by
      rw [Decimal.FitsInt]
      omega
    simp only [large, nonneg, if_false]

end Hexadecimal

end Cuttlefish
