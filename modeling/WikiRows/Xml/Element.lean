import WikiRows.Keyed

/-!
# XML elements

An element has attributes in their order, children in their order, and one text that stands for all
the text directly in it. A row is what an element says of itself: its attributes, and its text
under `*`.
-/

namespace WikiRows

/-- One row of an answer: values by name, in the order of the names. -/
abbrev Row := List (String × String)

namespace Xml

structure Element where
  name : String
  attributes : List (String × String)
  text : String
  children : List Element
  deriving Repr, Inhabited

namespace Element

def attribute? (e : Element) (name : String) : Option String := e.attributes.lookup name

def child? (e : Element) (name : String) : Option Element :=
  e.children.find? fun child => child.name = name

/-- The element below `e` at the end of a path of names, taking the first child of each name. -/
def descend? (e : Element) (path : List String) : Option Element := path.foldlM child? e

/-- The attributes by name, and the text under `*` unless it is empty. -/
def toRow (e : Element) : Row :=
  let row := Keyed.ofList e.attributes
  if e.text.isEmpty then row else Keyed.insert "*" e.text row

end Element

end Xml

end WikiRows
