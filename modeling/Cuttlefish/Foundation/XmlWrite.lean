import Cuttlefish.Foundation.XmlPointer

/-! # Writing through pointers

A document after the text of one of its elements was written: the same pointers lead to
the same elements, and their texts are as before but for the one that was written. -/

namespace Cuttlefish.Xml

variable {Element : Type}

/-- A write changes the text of the element at the end of the way, and nothing else. -/
structure DocumentApi.Lawful (api : DocumentApi Element) : Prop where
  name_setTextAt : ∀ element way text, api.name (api.setTextAt element way text) = api.name element
  attributeValue_setTextAt : ∀ element way text name,
    api.attributeValue (api.setTextAt element way text) name = api.attributeValue element name
  getText_here : ∀ element text, api.getText (api.setTextAt element [] text) = some text
  getText_below : ∀ element position way text,
    api.getText (api.setTextAt element (position :: way) text) = api.getText element
  children_here : ∀ element text,
    api.children (api.setTextAt element [] text) = api.children element
  children_below : ∀ element position way text,
    api.children (api.setTextAt element (position :: way) text) =
      (api.children element).modify position fun child => api.setTextAt child way text

theorem Tag.lawful : Tag.api.Lawful where
  name_setTextAt element way text := by
    cases way with
    | nil => rfl
    | cons position way => rfl
  attributeValue_setTextAt element way text name := by
    cases way with
    | nil => rfl
    | cons position way => rfl
  getText_here element text := rfl
  getText_below element position way text := rfl
  children_here element text := rfl
  children_below element position way text := rfl

namespace DocumentApi

variable (api : DocumentApi Element)

def restOfWay : (start way : List Nat) → Option (List Nat)
  | [], way => some way
  | _ :: _, [] => none
  | first :: start, position :: way => if first = position then restOfWay start way else none

def afterWrite (way : List Nat) (text : Text) (pointer : Pointer Element) : Pointer Element where
  element := (restOfWay pointer.way way).elim pointer.element fun rest =>
    api.setTextAt pointer.element rest text
  way := pointer.way

theorem restOfWay_self (way : List Nat) : restOfWay way way = some [] := by
  induction way with
  | nil => rfl
  | cons position way induction => rw [restOfWay, if_pos rfl, induction]

theorem restOfWay_eq_some {start way rest : List Nat} :
    restOfWay start way = some rest ↔ way = start ++ rest := by
  induction start generalizing way with
  | nil => simp [restOfWay]
  | cons first start induction =>
      cases way with
      | nil => simp [restOfWay]
      | cons position way =>
          rw [restOfWay, List.cons_append, List.cons.injEq]
          split
          next same => simp [induction, same]
          next different =>
            constructor
            · intro impossible
              cases impossible
            · rintro ⟨same, -⟩
              exact absurd same.symm different

theorem restOfWay_append (first second way : List Nat) :
    restOfWay (first ++ second) way = (restOfWay first way).bind (restOfWay second) := by
  induction first generalizing way with
  | nil => rfl
  | cons start first induction =>
      cases way with
      | nil => rfl
      | cons position way =>
          rw [List.cons_append, restOfWay, restOfWay]
          split
          · exact induction way
          · rfl

section

variable {api} {way : List Nat} {text : Text}

theorem name_afterWrite (lawful : api.Lawful) (pointer : Pointer Element) :
    api.name (api.afterWrite way text pointer).element = api.name pointer.element := by
  rw [afterWrite]
  cases restOfWay pointer.way way with
  | none => rfl
  | some rest => exact lawful.name_setTextAt _ _ _

theorem attributeValue_afterWrite (lawful : api.Lawful) (pointer : Pointer Element)
    (name : String) :
    api.attributeValue (api.afterWrite way text pointer).element name =
      api.attributeValue pointer.element name := by
  rw [afterWrite]
  cases restOfWay pointer.way way with
  | none => rfl
  | some rest => exact lawful.attributeValue_setTextAt _ _ _ _

theorem hasAttribute_afterWrite (lawful : api.Lawful) (pointer : Pointer Element)
    (name : String) (value : Text) :
    api.hasAttribute (api.afterWrite way text pointer) name value =
      api.hasAttribute pointer name value := by
  rw [hasAttribute, attributeValue_afterWrite lawful]
  rfl

theorem text_afterWrite (lawful : api.Lawful) (pointer : Pointer Element) :
    api.text (api.afterWrite way text pointer) =
      if pointer.way = way then some text else api.text pointer := by
  rw [DocumentApi.text, DocumentApi.text, afterWrite]
  cases isRest : restOfWay pointer.way way with
  | none =>
      have different : pointer.way ≠ way := by
        intro same
        rw [same, restOfWay_self] at isRest
        cases isRest
      rw [if_neg different]
      rfl
  | some rest =>
      have split := restOfWay_eq_some.mp isRest
      cases rest with
      | nil =>
          rw [List.append_nil] at split
          rw [if_pos split.symm]
          exact lawful.getText_here _ _
      | cons position rest =>
          have different : pointer.way ≠ way := by
            intro same
            rw [same] at split
            exact List.cons_ne_nil _ _ (List.self_eq_append_right.mp split)
          rw [if_neg different]
          exact lawful.getText_below _ _ _ _

theorem children_afterWrite (lawful : api.Lawful) (pointer : Pointer Element) (index : Nat) :
    (api.children (api.afterWrite way text pointer).element)[index]? =
      ((api.children pointer.element)[index]?).map fun child =>
        (api.afterWrite way text ⟨child, pointer.way ++ [index]⟩).element := by
  simp only [afterWrite, restOfWay_append]
  cases restOfWay pointer.way way with
  | none => simp
  | some rest =>
      cases rest with
      | nil => simp [restOfWay, lawful.children_here]
      | cons position rest =>
          simp only [Option.elim_some, Option.bind_some, lawful.children_below,
            List.getElem?_modify, restOfWay]
          by_cases same : index = position
          · simp [same]
          · have different : ¬ position = index := fun equal => same equal.symm
            simp [same, different]

theorem childPointers_afterWrite (lawful : api.Lawful) (parent : Pointer Element) :
    api.childPointers (api.afterWrite way text parent) =
      (api.childPointers parent).map (api.afterWrite way text) := by
  apply List.ext_getElem?
  intro index
  simp only [childPointers, List.getElem?_map, List.getElem?_zipIdx, children_afterWrite lawful]
  cases (api.children parent.element)[index]? with
  | none => rfl
  | some child => simp [afterWrite]

theorem find?_map_afterWrite {pointers : List (Pointer Element)} {wanted : Pointer Element → Bool}
    (keeps : ∀ pointer, wanted (api.afterWrite way text pointer) = wanted pointer) :
    (pointers.map (api.afterWrite way text)).find? wanted =
      (pointers.find? wanted).map (api.afterWrite way text) := by
  have same : wanted ∘ api.afterWrite way text = wanted := funext keeps
  rw [List.find?_map, same]

theorem findAttribute_afterWrite (lawful : api.Lawful) (parent : Pointer Element)
    (name : String) (value : Text) :
    api.findAttribute (api.afterWrite way text parent) name value =
      (api.findAttribute parent name value).map (api.afterWrite way text) := by
  rw [findAttribute, childPointers_afterWrite lawful]
  apply find?_map_afterWrite
  intro pointer
  exact hasAttribute_afterWrite lawful pointer name value

theorem childrenNamed_afterWrite (lawful : api.Lawful) (parent : Pointer Element)
    (name : String) :
    api.childrenNamed (api.afterWrite way text parent) name =
      (api.childrenNamed parent name).map (api.afterWrite way text) := by
  rw [childrenNamed, childPointers_afterWrite lawful, List.filter_map]
  congr 1
  apply List.filter_congr
  intro pointer _
  simp only [Function.comp_apply, name_afterWrite lawful]

theorem root_afterWrite (document : Element) :
    root (api.setTextAt document way text) = api.afterWrite way text (root document) := rfl

end

/-! ## Elements by their ways -/

def elementAt : Element → List Nat → Option Element
  | element, [] => some element
  | element, position :: way => ((api.children element)[position]?).bind fun child =>
      elementAt child way

def LeadsIn (document : Element) (pointer : Pointer Element) : Prop :=
  elementAt api document pointer.way = some pointer.element

theorem elementAt_concat (element : Element) (way : List Nat) (position : Nat) :
    elementAt api element (way ++ [position]) =
      (elementAt api element way).bind fun parent => (api.children parent)[position]? := by
  induction way generalizing element with
  | nil => simp [elementAt]
  | cons first way induction =>
      rw [List.cons_append, elementAt, elementAt]
      cases (api.children element)[first]? with
      | none => rfl
      | some child => exact induction child

variable {api} {document : Element}

theorem LeadsIn.root : api.LeadsIn document (DocumentApi.root document) := rfl

theorem LeadsIn.eq_of_way_eq {first second : Pointer Element}
    (leadsFirst : api.LeadsIn document first) (leadsSecond : api.LeadsIn document second)
    (sameWay : first.way = second.way) : first = second := by
  rw [LeadsIn, sameWay] at leadsFirst
  rw [LeadsIn, leadsFirst] at leadsSecond
  cases first
  cases second
  cases sameWay
  cases leadsSecond
  rfl

theorem mem_childPointers {parent child : Pointer Element} :
    child ∈ api.childPointers parent ↔
      ∃ position, child.way = parent.way ++ [position] ∧
        (api.children parent.element)[position]? = some child.element := by
  simp only [childPointers, List.mem_map, List.mem_zipIdx_iff_getElem?]
  constructor
  · rintro ⟨entry, found, isChild⟩
    rw [← isChild]
    exact ⟨entry.2, rfl, found⟩
  · rintro ⟨position, isWay, found⟩
    refine ⟨(child.element, position), found, ?_⟩
    cases child
    cases isWay
    rfl

theorem LeadsIn.child {parent child : Pointer Element} (leads : api.LeadsIn document parent)
    (member : child ∈ api.childPointers parent) : api.LeadsIn document child := by
  rcases mem_childPointers.mp member with ⟨position, isWay, found⟩
  rw [LeadsIn, isWay, elementAt_concat, leads]
  exact found

theorem LeadsIn.findAttribute {parent child : Pointer Element} {name : String} {value : Text}
    (leads : api.LeadsIn document parent)
    (found : api.findAttribute parent name value = some child) : api.LeadsIn document child :=
  leads.child (List.mem_of_find?_eq_some found)

end DocumentApi

end Cuttlefish.Xml
