import WikiRows.Xml.Element
import WikiRows.Xml.Entity

/-!
# Printing elements

The text of an element comes before its children, and an element without both is one empty tag.
`Element.chars` says what the text is; `Element.display` writes it piece by piece.
-/

namespace WikiRows

namespace Xml

def attributeChars (pair : String × String) : List Char :=
  ' ' :: pair.1.toList ++ '=' :: '"' :: (escape pair.2.toList ++ ['"'])

namespace Element

mutual

def chars : Element → List Char
  | ⟨name, attributes, text, children⟩ =>
    let head := '<' :: name.toList ++ attributes.flatMap attributeChars
    if children.isEmpty && text.isEmpty then head ++ ['/', '>']
    else
      head ++ '>' :: (escape text.toList ++ childrenChars children ++
        '<' :: '/' :: name.toList ++ ['>'])

def childrenChars : List Element → List Char
  | [] => []
  | child :: children => chars child ++ childrenChars children

end

mutual

def appendTo (s : String) : Element → String
  | ⟨name, attributes, text, children⟩ =>
    let head := s ++ String.ofList ('<' :: name.toList ++ attributes.flatMap attributeChars)
    if children.isEmpty && text.isEmpty then head ++ "/>"
    else
      appendChildrenTo (head ++ String.ofList ('>' :: escape text.toList)) children ++
        String.ofList ('<' :: '/' :: name.toList ++ ['>'])

def appendChildrenTo (s : String) : List Element → String
  | [] => s
  | child :: children => appendChildrenTo (appendTo s child) children

end

def display (e : Element) : String := e.appendTo ""

mutual

theorem toList_appendTo (s : String) : (e : Element) → (e.appendTo s).toList = s.toList ++ e.chars
  | ⟨name, attributes, text, children⟩ => by
    simp only [appendTo, chars]
    split <;> simp [toList_appendChildrenTo]

theorem toList_appendChildrenTo (s : String) : (children : List Element) →
    (appendChildrenTo s children).toList = s.toList ++ childrenChars children
  | [] => by simp [appendChildrenTo, childrenChars]
  | child :: children => by
    simp [appendChildrenTo, childrenChars, toList_appendTo, toList_appendChildrenTo]

end

theorem toList_display (e : Element) : e.display.toList = e.chars := by
  simp [display, toList_appendTo]

end Element

end Xml

end WikiRows
