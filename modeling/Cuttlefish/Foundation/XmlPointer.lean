import Cuttlefish.Foundation.Decimal

/-! # Pointers into a document tree

Walking through a document with attributes and writing the text of an element.
The operations of the library are parameters. A pointer to an element is the
element together with the way to it, so that a write through the pointer is a
write to the document. -/

namespace Cuttlefish.Xml

/-- Operations on a document. `children` are the elements that the first child
and its next siblings lead to; `setTextAt` writes to the element at the end of a
way of child positions. -/
structure DocumentApi (Element : Type) where
  name : Element → String
  children : Element → List Element
  attributeValue : Element → String → Option Text
  getText : Element → Option Text
  setTextAt : Element → List Nat → Text → Element

structure Pointer (Element : Type) where
  element : Element
  way : List Nat

namespace DocumentApi

variable {Element : Type} (api : DocumentApi Element)

def root (document : Element) : Pointer Element := ⟨document, []⟩

def childPointers (parent : Pointer Element) : List (Pointer Element) :=
  (api.children parent.element).zipIdx.map fun entry =>
    ⟨entry.1, parent.way ++ [entry.2]⟩

def childrenNamed (parent : Pointer Element) (name : String) : List (Pointer Element) :=
  (api.childPointers parent).filter fun child => api.name child.element = name

def hasAttribute (pointer : Pointer Element) (name : String) (value : Text) : Bool :=
  api.attributeValue pointer.element name == some value

def findAttribute (parent : Pointer Element) (name : String) (value : Text) :
    Option (Pointer Element) :=
  (api.childPointers parent).find? fun child => api.hasAttribute child name value

/-- The text of the element; `none` where the library returns a null pointer. -/
def text (pointer : Pointer Element) : Option Text := api.getText pointer.element

def setText (document : Element) (pointer : Pointer Element) (text : Text) : Element :=
  api.setTextAt document pointer.way (text.takeWhile (· != '\x00'))

end DocumentApi

/-! ## Tagged trees -/

/-- An element with its name, its attributes, its text and its child elements. -/
inductive Tag
  | mk (name : String) (attributes : List (String × Text)) (text : Option Text)
      (children : List Tag)

namespace Tag

def name : Tag → String
  | mk name _ _ _ => name

def attributes : Tag → List (String × Text)
  | mk _ attributes _ _ => attributes

def text : Tag → Option Text
  | mk _ _ text _ => text

def children : Tag → List Tag
  | mk _ _ _ children => children

def setTextAt : Tag → List Nat → Text → Tag
  | tag, [], text => mk tag.name tag.attributes (some text) tag.children
  | tag, position :: way, text =>
      mk tag.name tag.attributes tag.text
        (tag.children.modify position fun child => setTextAt child way text)

def api : DocumentApi Tag where
  name := name
  children := children
  attributeValue tag wanted := tag.attributes.lookup wanted
  getText := text
  setTextAt := setTextAt

end Tag

end Cuttlefish.Xml
