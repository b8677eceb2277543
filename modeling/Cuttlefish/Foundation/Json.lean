import Cuttlefish.Foundation.Decimal

/-! # JSON values

Trees of JSON as the C++ library keeps them: what is not there is null, and a null becomes an
object or an array when a member or an element of it is written. -/

namespace Cuttlefish

inductive Json
  | null
  | bool (value : Bool)
  | int (value : Int)
  | real (bits : UInt64)
  | string (value : Text)
  | array (elements : List Json)
  | object (members : List (Text × Json))

namespace Json

/-- A step of a path. -/
inductive Step
  | key (name : Text)
  | index (position : Nat)
  deriving DecidableEq

def members? : Json → Option (List (Text × Json))
  | null => some []
  | object members => some members
  | _ => none

def elements? : Json → Option (List Json)
  | null => some []
  | array elements => some elements
  | _ => none

def member (members : List (Text × Json)) (name : Text) : Json := (members.lookup name).getD null

def setMember (members : List (Text × Json)) (name : Text) (value : Json) :
    List (Text × Json) :=
  match members with
  | [] => [(name, value)]
  | (other, old) :: rest =>
      if other = name then (other, value) :: rest else (other, old) :: setMember rest name value

def element (elements : List Json) (position : Nat) : Json := (elements[position]?).getD null

def setElement (elements : List Json) (position : Nat) (value : Json) : List Json :=
  if position < elements.length then elements.set position value
  else elements ++ List.replicate (position - elements.length) null ++ [value]

def lookup : Json → List Step → Json
  | value, [] => value
  | object members, .key name :: path => (member members name).lookup path
  | array elements, .index position :: path => (element elements position).lookup path
  | _, _ :: _ => null

def Incomparable (first second : List Step) : Prop := ¬ first <+: second ∧ ¬ second <+: first

instance (first second : List Step) : Decidable (Incomparable first second) :=
  inferInstanceAs (Decidable (_ ∧ _))

theorem incomparable_cons {step : Step} {first second : List Step} :
    Incomparable (step :: first) (step :: second) ↔ Incomparable first second := by
  simp [Incomparable, List.cons_prefix_cons]

theorem Incomparable.exists_cons {first second : List Step}
    (incomparable : Incomparable first second) : ∃ step rest, second = step :: rest := by
  cases second with
  | nil => exact absurd List.nil_prefix incomparable.2
  | cons step rest => exact ⟨step, rest, rfl⟩

@[simp] theorem lookup_nil (value : Json) : value.lookup [] = value := by
  cases value <;> rfl

@[simp] theorem lookup_null (path : List Step) : null.lookup path = null := by
  cases path with
  | nil => rfl
  | cons step rest => cases step <;> rfl

@[simp] theorem member_setMember_self (members : List (Text × Json)) (name : Text) (value : Json) :
    member (setMember members name value) name = value := by
  induction members with
  | nil => simp [member, setMember]
  | cons head rest induction =>
      rcases head with ⟨other, old⟩
      by_cases same : other = name
      · simp [member, setMember, same]
      · have different : (name == other) = false := beq_false_of_ne (Ne.symm same)
        simpa [member, setMember, same, List.lookup_cons, different] using induction

theorem member_setMember_of_ne {members : List (Text × Json)} {name other : Text}
    (different : other ≠ name) (value : Json) :
    member (setMember members name value) other = member members other := by
  induction members with
  | nil =>
      have notSame : (other == name) = false := beq_false_of_ne different
      simp [member, setMember, List.lookup_cons, notSame]
  | cons head rest induction =>
      rcases head with ⟨first, old⟩
      by_cases same : first = name
      · have notSame : (other == name) = false := beq_false_of_ne different
        simp [member, setMember, same, List.lookup_cons, notSame]
      · unfold member at induction ⊢
        rw [setMember, if_neg same, List.lookup_cons, List.lookup_cons]
        cases other == first with
        | true => rfl
        | false => exact induction

@[simp] theorem element_setElement_self (elements : List Json) (position : Nat) (value : Json) :
    element (setElement elements position value) position = value := by
  rw [element, setElement]
  split
  · rename_i inside
    simp [inside]
  · rename_i outside
    rw [List.getElem?_append_right (by simp; omega)]
    simp [Nat.add_sub_cancel' (Nat.le_of_not_lt outside)]

theorem element_setElement_of_ne {elements : List Json} {position other : Nat}
    (different : other ≠ position) (value : Json) :
    element (setElement elements position value) other = element elements other := by
  unfold element setElement
  split
  · rw [List.getElem?_set_ne (Ne.symm different)]
  · rename_i outside
    by_cases inside : other < elements.length
    · rw [List.append_assoc, List.getElem?_append_left inside]
    · have missing : elements[other]? = none := List.getElem?_eq_none (Nat.le_of_not_lt inside)
      rw [missing, List.append_assoc, List.getElem?_append_right (Nat.le_of_not_lt inside)]
      by_cases padded : other < position
      · rw [List.getElem?_append_left (by simp; omega),
          List.getElem?_eq_getElem (by simp; omega)]
        simp
      · rw [List.getElem?_eq_none (by simp; omega)]

end Json

end Cuttlefish
