import Cuttlefish.Foundation.Decimal

/-! # Operations of `std::string`

`none` stands for `std::out_of_range`. Positions and counts that the program
computes with signed or wrapping arithmetic are integers here: a negative one
converts to a `size_t` beyond the length of every text. -/

namespace Cuttlefish.CxxString

/-- The position is one `substr` and `replace` accept. -/
def InRange (text : Text) (pos : Int) : Prop := 0 ≤ pos ∧ pos ≤ text.length

instance (text : Text) (pos : Int) : Decidable (InRange text pos) :=
  inferInstanceAs (Decidable (_ ∧ _))

/-- `substr(pos)`. -/
def substr (text : Text) (pos : Int) : Option Text :=
  if InRange text pos then some (text.drop pos.toNat) else none

/-- `substr(pos, count)`. -/
def substrCount (text : Text) (pos count : Int) : Option Text :=
  match substr text pos with
  | none => none
  | some rest => some (if count < 0 then rest else rest.take count.toNat)

/-- `compare(pos, count, other) == 0`. -/
def compareEqual (text : Text) (pos count : Nat) (other : Text) : Option Bool :=
  match substrCount text pos count with
  | none => none
  | some part => some (decide (part = other))

/-- `replace(pos, count, other)`. -/
def replace (text : Text) (pos : Int) (count : Nat) (other : Text) : Option Text :=
  if InRange text pos then
    some (text.take pos.toNat ++ other ++ text.drop (pos.toNat + count))
  else none

/-- `operator[]` reads without a check: `outside` is what stands around the
buffer. -/
def get (outside : Int → Char) (text : Text) (index : Int) : Char :=
  if 0 ≤ index ∧ index < text.length then text.getD index.toNat '\x00'
  else if index = text.length then '\x00'
  else outside index

/-- Assignment through `operator[]`; outside of the text it leaves the text as
it is. -/
def set (text : Text) (index : Int) (char : Char) : Text :=
  if 0 ≤ index then List.set text index.toNat char else text

def cString (text : Text) : Text := text.takeWhile (· != '\x00')

def lastChars (text : Text) (count : Nat) : Text := text.drop (text.length - count)

end Cuttlefish.CxxString
