import WikiRows.Literal.Basic
import WikiRows.Instant.Printer
import WikiRows.Decimal.Layout
import WikiRows.Text.Quoted

/-!
# The two texts of a literal

`Literal.wire?` is what a request carries: the bare value, and the items of a list joined by bars.
Null has no such text, since a parameter that is not sent is how "no value" is spelled.
`Literal.chars` is for messages: strings are quoted and tokens marked, so that constants of
different kinds look different.
-/

namespace WikiRows

namespace Literal

def joinChars (separator : List Char) : List (List Char) → List Char
  | [] => []
  | [text] => text
  | text :: rest => text ++ separator ++ joinChars separator rest

def boolText : Bool → String
  | true => "true"
  | false => "false"

mutual

/-- The text of a value in a request. -/
def wire? : Literal → Option String
  | null => none
  | bool b => some (boolText b)
  | int i => some (toString i.toInt)
  | float x => some (String.ofList (Layout.plain.float x))
  | str s => some s
  | date t => some t.toSecondText
  | token name => some name
  | list items => some ("|".intercalate (wireItems items))

/-- The texts of the items that have one. -/
def wireItems : List Literal → List String
  | [] => []
  | item :: items =>
    match wire? item with
    | some text => text :: wireItems items
    | none => wireItems items

end

theorem wire?_eq_none_iff {v : Literal} : v.wire? = none ↔ v = null := by
  cases v <;> simp [wire?]

mutual

/-- The text of a value in a message. -/
def chars : Literal → List Char
  | null => ['n', 'u', 'l', 'l']
  | bool b => (boolText b).toList
  | int i => (toString i.toInt).toList
  | float x => Layout.plain.float x
  | str s => Text.quoteChars s.toList
  | date t => t.wholeChars
  | token name => '#' :: name.toList
  | list items => '[' :: (joinChars [',', ' '] (itemsChars items) ++ [']'])

def itemsChars : List Literal → List (List Char)
  | [] => []
  | item :: items => chars item :: itemsChars items

end

def display (v : Literal) : String := String.ofList v.chars

end Literal

end WikiRows
