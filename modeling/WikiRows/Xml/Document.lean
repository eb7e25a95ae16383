import WikiRows.Xml.Attributes
import WikiRows.Text.Blank

/-!
# Documents

`Document.ofChars` builds a tree from the pieces of a text. A checker sees to it that every
closing tag names the tag that is open, and a builder keeps the elements that are open on a stack,
the innermost first. White space between tags is layout and dropped; in a CDATA section it is
text. A text that is white space as a whole is the empty document.
-/

namespace WikiRows

namespace Xml

inductive Fault where
  | malformed
  | badAttribute
  | badAttributeValue
  | badText
  | multipleRoots
  | textOutsideRoot
  | unexpectedClosing
  | unclosed (name : String)
  | noRoot
  deriving DecidableEq, Repr

namespace Fault

def ofTag : TagFault → Fault
  | .badAttribute => badAttribute
  | .badValue => badAttributeValue

def message : Fault → String
  | malformed => "malformed XML"
  | badAttribute => "bad attribute"
  | badAttributeValue => "bad attribute value"
  | badText => "bad text content"
  | multipleRoots => "multiple root elements"
  | textOutsideRoot => "text outside the root element"
  | unexpectedClosing => "unexpected closing tag"
  | unclosed name => "unclosed element <" ++ name ++ ">"
  | noRoot => "no root element"

end Fault

namespace Markup

/-- Checks a piece, given the names of the tags that are open, the innermost first. A closing tag
has to name the innermost one. -/
def checkEnd (names : List (List Char)) (piece : Markup) :
    List Markup × Option (List (List Char)) :=
  match piece, names with
  | opening content, names => ([opening content], some (Tag.name content :: names))
  | closing name, innermost :: names =>
    if name = innermost then ([closing name], some names) else ([broken], none)
  | closing _, [] => ([broken], none)
  | piece, names => ([piece], some names)

def checker : Transducer (Option (List (List Char))) Markup Markup where
  step
    | some names, piece => checkEnd names piece
    | none, _ => ([], none)
  finish _ := []

/-- The pieces of a text, up to the first closing tag that does not match. -/
def read (s : List Char) : List Markup := checker.run (some []) (split s)

end Markup

/-- The elements that are open, the innermost first, each with its children so far, the last one
first, and the root once it is closed. -/
structure Builder where
  stack : List Element
  root : Option Element
  deriving Repr, Inhabited

namespace Builder

def initial : Builder := ⟨[], none⟩

/-- Makes an element the last child of the innermost one, or the root. -/
def attach (b : Builder) (e : Element) : Except Fault Builder :=
  match b.stack with
  | parent :: stack =>
    .ok { b with stack := { parent with children := e :: parent.children } :: stack }
  | [] =>
    match b.root with
    | some _ => .error .multipleRoots
    | none => .ok { b with root := some e }

/-- Adds text to the innermost element. Outside the root only white space may stand. -/
def addText (b : Builder) (text : List Char) : Except Fault Builder :=
  match b.stack with
  | e :: stack => .ok { b with stack := { e with text := e.text ++ String.ofList text } :: stack }
  | [] => if Text.allBlank text then .ok b else .error .textOutsideRoot

def openTag (b : Builder) (content : List Char) : Except Fault Builder :=
  if b.stack.isEmpty && b.root.isSome then .error .multipleRoots
  else
    match Tag.element content with
    | .ok e => .ok { b with stack := e :: b.stack }
    | .error fault => .error (.ofTag fault)

def closeTag (b : Builder) : Except Fault Builder :=
  match b.stack with
  | e :: stack => attach { b with stack } { e with children := e.children.reverse }
  | [] => .error .unexpectedClosing

def step (b : Builder) (piece : Markup) : Except Fault Builder :=
  match piece with
  | .opening content => b.openTag content
  | .empty content =>
    match Tag.element content with
    | .ok e => b.attach e
    | .error fault => .error (.ofTag fault)
  | .closing _ => b.closeTag
  | .text content =>
    match unescape? content with
    | some text => if Text.allBlank text then .ok b else b.addText text
    | none => .error .badText
  | .cdata content => b.addText content
  | .skipped => .ok b
  | .broken => .error .malformed

def finish (b : Builder) : Except Fault Element :=
  match b.stack, b.root with
  | e :: _, _ => .error (.unclosed e.name)
  | [], some root => .ok root
  | [], none => .error .noRoot

end Builder

/-- What a text says. The empty document has no root. -/
structure Document where
  root : Option Element
  deriving Repr, Inhabited

namespace Document

def empty : Document := ⟨none⟩

/-- A byte order mark in front of a text does not belong to it. -/
def dropMark : List Char → List Char
  | '\ufeff' :: rest => rest
  | s => s

def ofChars (s : List Char) : Except Fault Document :=
  if Text.allBlank s then .ok empty
  else do
    let b ← (Markup.read (dropMark s)).foldlM Builder.step Builder.initial
    let root ← b.finish
    return ⟨some root⟩

/-- The element at the end of a path of names that begins with the name of the root. -/
def find? (d : Document) (path : List String) : Option Element :=
  match d.root, path with
  | some root, name :: rest => if root.name = name then root.descend? rest else none
  | _, _ => none

end Document

end Xml

end WikiRows
