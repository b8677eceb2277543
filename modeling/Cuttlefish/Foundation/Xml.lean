import Cuttlefish.Foundation.Decimal

/-! # Document trees of an XML library

The operations of a mutable document tree that a program uses, as functions on
values: writing through a pointer to a child becomes replacing that child. The
operations are parameters, and `Lawful` states what their documentation
promises. -/

namespace Cuttlefish.Xml

structure Api (Element : Type) where
  name : Element → String
  firstChildElement : Element → String → Option Element
  getText : Element → Option Text
  setText : Element → Text → Element
  newElement : String → Element
  insertEndText : Element → Text → Element
  insertEndChild : Element → Element → Element
  replaceFirstChild : Element → String → Element → Element

variable {Element : Type}

structure Api.Lawful (api : Api Element) : Prop where
  name_newElement : ∀ name, api.name (api.newElement name) = name
  name_insertEndText : ∀ element text, api.name (api.insertEndText element text) =
    api.name element
  name_insertEndChild : ∀ parent child, api.name (api.insertEndChild parent child) =
    api.name parent
  name_setText : ∀ element text, api.name (api.setText element text) = api.name element
  name_replaceFirstChild : ∀ parent name child,
    api.name (api.replaceFirstChild parent name child) = api.name parent
  name_firstChildElement : ∀ parent name child,
    api.firstChildElement parent name = some child → api.name child = name
  firstChildElement_newElement : ∀ name wanted,
    api.firstChildElement (api.newElement name) wanted = none
  firstChildElement_insertEndChild : ∀ parent child wanted,
    api.firstChildElement (api.insertEndChild parent child) wanted =
      (api.firstChildElement parent wanted).or
        (if api.name child = wanted then some child else none)
  firstChildElement_replaceFirstChild : ∀ parent name child wanted,
    api.name child = name → (api.firstChildElement parent name).isSome = true →
    api.firstChildElement (api.replaceFirstChild parent name child) wanted =
      if wanted = name then some child else api.firstChildElement parent wanted
  getText_setText : ∀ element text, api.getText (api.setText element text) = some text
  getText_insertEndText : ∀ name text,
    api.getText (api.insertEndText (api.newElement name) text) = some text

/-! ## Writing the text of a child -/

section Children

variable (api : Api Element)

/-- The text of the first child with the given name: `none` without such a
child, `some none` for a child without text. -/
def childText (parent : Element) (name : String) : Option (Option Text) :=
  (api.firstChildElement parent name).map api.getText

/-- Set the text of the first child called `name`; without one, append a child
called `newName`. -/
def writeChildText (parent : Element) (name newName : String) (text : Text) : Element :=
  match api.firstChildElement parent name with
  | none => api.insertEndChild parent (api.insertEndText (api.newElement newName) text)
  | some child => api.replaceFirstChild parent name (api.setText child text)

variable {api}

theorem childText_writeChildText (lawful : api.Lawful) (parent : Element)
    (name newName : String) (text : Text) (wanted : String) :
    childText api (writeChildText api parent name newName text) wanted =
      if (childText api parent name).isSome = true then
        if wanted = name then some (some text) else childText api parent wanted
      else
        (childText api parent wanted).or
          (if newName = wanted then some (some text) else none) := by
  unfold childText writeChildText
  cases found : api.firstChildElement parent name with
  | none =>
      have newName_eq : api.name (api.insertEndText (api.newElement newName) text) =
          newName := by
        rw [lawful.name_insertEndText, lawful.name_newElement]
      simp only [Option.map_none, Option.isSome_none, Bool.false_eq_true, if_false,
        lawful.firstChildElement_insertEndChild, newName_eq]
      cases api.firstChildElement parent wanted with
      | some child => rfl
      | none =>
          by_cases same : newName = wanted
          · simp [same, lawful.getText_insertEndText]
          · simp [same]
  | some child =>
      have childName : api.name (api.setText child text) = name := by
        rw [lawful.name_setText, lawful.name_firstChildElement parent name child found]
      have replaced := lawful.firstChildElement_replaceFirstChild parent name
        (api.setText child text) wanted childName (by simp [found])
      simp only [Option.map_some, Option.isSome_some, if_true, replaced]
      by_cases same : wanted = name
      · simp [same, lawful.getText_setText]
      · simp [same]

@[simp] theorem childText_writeChildText_self (lawful : api.Lawful) (parent : Element)
    (name : String) (text : Text) :
    childText api (writeChildText api parent name name text) name = some (some text) := by
  rw [childText_writeChildText lawful]
  cases childText api parent name with
  | none => simp
  | some _ => simp

theorem childText_writeChildText_of_ne (lawful : api.Lawful) (parent : Element)
    {name newName wanted : String} (different : wanted ≠ name) (notNew : newName ≠ wanted)
    (text : Text) :
    childText api (writeChildText api parent name newName text) wanted =
      childText api parent wanted := by
  rw [childText_writeChildText lawful]
  simp only [different, notNew, if_false, Option.or_none, ite_self]

theorem childText_writeChildText_of_present (lawful : api.Lawful) (parent : Element)
    {name newName wanted : String} {present : Option Text} (different : wanted ≠ name)
    (found : childText api parent wanted = some present) (text : Text) :
    childText api (writeChildText api parent name newName text) wanted = some present := by
  rw [childText_writeChildText lawful]
  simp only [different, if_false, found, Option.some_or, ite_self]

theorem name_writeChildText (lawful : api.Lawful) (parent : Element)
    (name newName : String) (text : Text) :
    api.name (writeChildText api parent name newName text) = api.name parent := by
  rw [writeChildText]
  cases api.firstChildElement parent name with
  | none => exact lawful.name_insertEndChild parent _
  | some child => exact lawful.name_replaceFirstChild parent name _

end Children

/-! ## Trees -/

/-- An element as its name and its content. -/
inductive Tree
  | mk (name : String) (content : List (Text ⊕ Tree))

namespace Tree

def name : Tree → String
  | mk name _ => name

def content : Tree → List (Text ⊕ Tree)
  | mk _ content => content

def named (wanted : String) : Text ⊕ Tree → Option Tree
  | .inl _ => none
  | .inr child => if child.name = wanted then some child else none

def replaceFirst (wanted : String) (child : Tree) :
    List (Text ⊕ Tree) → List (Text ⊕ Tree)
  | [] => []
  | item :: rest =>
      if (named wanted item).isSome then .inr child :: rest
      else item :: replaceFirst wanted child rest

def api : Api Tree where
  name := name
  firstChildElement parent wanted := parent.content.findSome? (named wanted)
  getText element :=
    match element.content with
    | .inl text :: _ => some text
    | _ => none
  setText element text :=
    match element.content with
    | .inl _ :: rest => mk element.name (.inl text :: rest)
    | content => mk element.name (.inl text :: content)
  newElement name := mk name []
  insertEndText element text := mk element.name (element.content ++ [.inl text])
  insertEndChild parent child := mk parent.name (parent.content ++ [.inr child])
  replaceFirstChild parent wanted child :=
    mk parent.name (replaceFirst wanted child parent.content)

private theorem findSome?_replaceFirst {name wanted : String} {child : Tree}
    (childName : child.name = name) {content : List (Text ⊕ Tree)}
    (present : (content.findSome? (named name)).isSome = true) :
    (replaceFirst name child content).findSome? (named wanted) =
      if wanted = name then some child else content.findSome? (named wanted) := by
  induction content with
  | nil => simp at present
  | cons item rest induction =>
      by_cases matching : (named name item).isSome = true
      · rw [replaceFirst, if_pos matching, List.findSome?_cons]
        by_cases same : wanted = name
        · simp [named, childName, same]
        · have otherChild : named wanted (.inr child) = none := by
            simp [named, childName, Ne.symm same]
          have otherItem : named wanted item = none := by
            cases item with
            | inl _ => rfl
            | inr element =>
                have itemName : element.name = name := by
                  by_cases equal : element.name = name
                  · exact equal
                  · simp [named, equal] at matching
                simp [named, itemName, Ne.symm same]
          simp [otherChild, otherItem, same]
      · have noMatch : named name item = none := by simpa using matching
        rw [List.findSome?_cons, noMatch] at present
        rw [replaceFirst, if_neg matching, List.findSome?_cons, List.findSome?_cons]
        cases found : named wanted item with
        | none => exact induction present
        | some element =>
            have different : wanted ≠ name := by
              intro equal
              rw [equal, noMatch] at found
              cases found
            simp [different]

theorem api_lawful : api.Lawful where
  name_newElement _ := rfl
  name_insertEndText _ _ := rfl
  name_insertEndChild _ _ := rfl
  name_setText element text := by
    simp only [api]
    split <;> rfl
  name_replaceFirstChild _ _ _ := rfl
  name_firstChildElement parent wanted child found := by
    rcases List.exists_of_findSome?_eq_some found with ⟨item, -, matching⟩
    cases item with
    | inl _ => cases matching
    | inr element =>
        simp only [named, Option.ite_none_right_eq_some, Option.some.injEq] at matching
        exact matching.2 ▸ matching.1
  firstChildElement_newElement _ _ := rfl
  firstChildElement_insertEndChild parent child wanted := by
    have last : [Sum.inr child].findSome? (named wanted) =
        if child.name = wanted then some child else none := by
      by_cases same : child.name = wanted
      · simp [named, same]
      · simp [named, same]
    change (parent.content ++ [Sum.inr child]).findSome? (named wanted) = _
    rw [List.findSome?_append, last]
    rfl
  firstChildElement_replaceFirstChild parent name child wanted childName present :=
    findSome?_replaceFirst childName present
  getText_setText element text := by
    rcases element with ⟨name, content⟩
    cases content with
    | nil => rfl
    | cons item rest => cases item <;> rfl
  getText_insertEndText _ _ := rfl

end Tree

end Cuttlefish.Xml
