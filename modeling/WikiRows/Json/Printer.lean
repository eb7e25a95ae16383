import WikiRows.Json.Basic
import WikiRows.Decimal.Layout

/-!
# Printing JSON

`Json.compact` writes without any space. `Json.pretty` puts each item and member on a line of its
own, indented by two spaces for each level. Strings escape the quote, the backslash and the
controls below the space, and nothing else. `Json.chars` and `Json.prettyChars` say what the texts
are; the functions that append write them piece by piece.
-/

namespace WikiRows

namespace Json

def hexDigit (n : Nat) : Char := (Nat.toDigits 16 n).headD '0'

def escapeChar (c : Char) : List Char :=
  match c with
  | '"' => ['\\', '"']
  | '\\' => ['\\', '\\']
  | '\x08' => ['\\', 'b']
  | '\t' => ['\\', 't']
  | '\n' => ['\\', 'n']
  | '\x0c' => ['\\', 'f']
  | '\r' => ['\\', 'r']
  | c =>
    if c.toNat < 0x20 then
      ['\\', 'u', '0', '0', hexDigit (c.toNat / 16), hexDigit (c.toNat % 16)]
    else [c]

def stringChars (s : String) : List Char := '"' :: (s.toList.flatMap escapeChar ++ ['"'])

def intChars (i : Int) : List Char :=
  if i < 0 then '-' :: Nat.toDigits 10 i.natAbs else Nat.toDigits 10 i.natAbs

theorem ofList_intChars (i : Int) : String.ofList (intChars i) = toString i := by
  cases i with
  | ofNat n =>
    rw [intChars, if_neg (by simp)]
    rfl
  | negSucc n =>
    rw [intChars, if_pos (Int.negSucc_lt_zero n), String.ofList_cons]
    rfl

def scalarChars : Json → List Char
  | bool true => ['t', 'r', 'u', 'e']
  | bool false => ['f', 'a', 'l', 's', 'e']
  | int i => intChars i
  | float x => Layout.marked.float x
  | str s => stringChars s
  | _ => ['n', 'u', 'l', 'l']

mutual

def chars : Json → List Char
  | arr [] => ['[', ']']
  | arr (item :: items) => '[' :: (chars item ++ itemsChars items)
  | obj [] => ['{', '}']
  | obj ((name, value) :: members) =>
    '{' :: (stringChars name ++ ':' :: (chars value ++ membersChars members))
  | scalar => scalarChars scalar

/-- The items after the first, each behind a comma, and the end of the array. -/
def itemsChars : List Json → List Char
  | [] => [']']
  | item :: items => ',' :: (chars item ++ itemsChars items)

/-- The members after the first, each behind a comma, and the end of the object. -/
def membersChars : List (String × Json) → List Char
  | [] => ['}']
  | (name, value) :: members =>
    ',' :: (stringChars name ++ ':' :: (chars value ++ membersChars members))

end

mutual

def appendTo (s : String) : Json → String
  | arr [] => s ++ "[]"
  | arr (item :: items) => appendItemsTo (appendTo (s.push '[') item) items
  | obj [] => s ++ "\x7b\x7d"
  | obj ((name, value) :: members) =>
    let head := '{' :: (stringChars name ++ [':'])
    appendMembersTo (appendTo (s ++ String.ofList head) value) members
  | scalar => s ++ String.ofList (scalarChars scalar)

def appendItemsTo (s : String) : List Json → String
  | [] => s.push ']'
  | item :: items => appendItemsTo (appendTo (s.push ',') item) items

def appendMembersTo (s : String) : List (String × Json) → String
  | [] => s.push '}'
  | (name, value) :: members =>
    let head := ',' :: (stringChars name ++ [':'])
    appendMembersTo (appendTo (s ++ String.ofList head) value) members

end

mutual

theorem toList_appendTo (s : String) (j : Json) : (appendTo s j).toList = s.toList ++ chars j := by
  match j with
  | arr [] => simp [appendTo, chars]
  | arr (item :: items) => simp [appendTo, chars, toList_appendTo, toList_appendItemsTo]
  | obj [] => simp [appendTo, chars]
  | obj ((name, value) :: members) =>
    simp [appendTo, chars, toList_appendTo, toList_appendMembersTo]
  | null | bool _ | int _ | float _ | str _ => simp [appendTo, chars]

theorem toList_appendItemsTo (s : String) (items : List Json) :
    (appendItemsTo s items).toList = s.toList ++ itemsChars items := by
  match items with
  | [] => simp [appendItemsTo, itemsChars]
  | item :: items => simp [appendItemsTo, itemsChars, toList_appendTo, toList_appendItemsTo]

theorem toList_appendMembersTo (s : String) (members : List (String × Json)) :
    (appendMembersTo s members).toList = s.toList ++ membersChars members := by
  match members with
  | [] => simp [appendMembersTo, membersChars]
  | (name, value) :: members =>
    simp [appendMembersTo, membersChars, toList_appendTo, toList_appendMembersTo]

end

def compact (j : Json) : String := j.appendTo ""

theorem toList_compact (j : Json) : j.compact.toList = j.chars := by
  simp [compact, toList_appendTo]

def lineChars (level : Nat) : List Char := '\n' :: List.replicate (2 * level) ' '

mutual

def prettyChars (level : Nat) : Json → List Char
  | arr [] => ['[', ']']
  | arr (item :: items) =>
    '[' :: (lineChars (level + 1) ++ prettyChars (level + 1) item ++ prettyItems level items)
  | obj [] => ['{', '}']
  | obj ((name, value) :: members) =>
    '{' :: (lineChars (level + 1) ++ stringChars name ++ ':' :: ' ' ::
      (prettyChars (level + 1) value ++ prettyMembers level members))
  | scalar => scalarChars scalar

def prettyItems (level : Nat) : List Json → List Char
  | [] => lineChars level ++ [']']
  | item :: items =>
    ',' :: (lineChars (level + 1) ++ prettyChars (level + 1) item ++ prettyItems level items)

def prettyMembers (level : Nat) : List (String × Json) → List Char
  | [] => lineChars level ++ ['}']
  | (name, value) :: members =>
    ',' :: (lineChars (level + 1) ++ stringChars name ++ ':' :: ' ' ::
      (prettyChars (level + 1) value ++ prettyMembers level members))

end

mutual

def appendPrettyTo (s : String) (level : Nat) : Json → String
  | arr [] => s ++ "[]"
  | arr (item :: items) =>
    let head := '[' :: lineChars (level + 1)
    appendPrettyItemsTo (appendPrettyTo (s ++ String.ofList head) (level + 1) item) level items
  | obj [] => s ++ "\x7b\x7d"
  | obj ((name, value) :: members) =>
    let head := '{' :: (lineChars (level + 1) ++ stringChars name ++ [':', ' '])
    appendPrettyMembersTo (appendPrettyTo (s ++ String.ofList head) (level + 1) value) level members
  | scalar => s ++ String.ofList (scalarChars scalar)

def appendPrettyItemsTo (s : String) (level : Nat) : List Json → String
  | [] => s ++ String.ofList (lineChars level ++ [']'])
  | item :: items =>
    let head := ',' :: lineChars (level + 1)
    appendPrettyItemsTo (appendPrettyTo (s ++ String.ofList head) (level + 1) item) level items

def appendPrettyMembersTo (s : String) (level : Nat) : List (String × Json) → String
  | [] => s ++ String.ofList (lineChars level ++ ['}'])
  | (name, value) :: members =>
    let head := ',' :: (lineChars (level + 1) ++ stringChars name ++ [':', ' '])
    appendPrettyMembersTo (appendPrettyTo (s ++ String.ofList head) (level + 1) value) level members

end

mutual

theorem toList_appendPrettyTo (s : String) (level : Nat) (j : Json) :
    (appendPrettyTo s level j).toList = s.toList ++ prettyChars level j := by
  match j with
  | arr [] => simp [appendPrettyTo, prettyChars]
  | arr (item :: items) =>
    simp [appendPrettyTo, prettyChars, toList_appendPrettyTo, toList_appendPrettyItemsTo]
  | obj [] => simp [appendPrettyTo, prettyChars]
  | obj ((name, value) :: members) =>
    simp [appendPrettyTo, prettyChars, toList_appendPrettyTo, toList_appendPrettyMembersTo]
  | null | bool _ | int _ | float _ | str _ => simp [appendPrettyTo, prettyChars]

theorem toList_appendPrettyItemsTo (s : String) (level : Nat) (items : List Json) :
    (appendPrettyItemsTo s level items).toList = s.toList ++ prettyItems level items := by
  match items with
  | [] => simp [appendPrettyItemsTo, prettyItems]
  | item :: items =>
    simp [appendPrettyItemsTo, prettyItems, toList_appendPrettyTo, toList_appendPrettyItemsTo]

theorem toList_appendPrettyMembersTo (s : String) (level : Nat) (members : List (String × Json)) :
    (appendPrettyMembersTo s level members).toList = s.toList ++ prettyMembers level members := by
  match members with
  | [] => simp [appendPrettyMembersTo, prettyMembers]
  | (name, value) :: members =>
    simp [appendPrettyMembersTo, prettyMembers, toList_appendPrettyTo,
      toList_appendPrettyMembersTo]

end

/-- The text with one item or member a line. -/
def pretty (j : Json) : String := j.appendPrettyTo "" 0

theorem toList_pretty (j : Json) : j.pretty.toList = j.prettyChars 0 := by
  simp [pretty, toList_appendPrettyTo]

end Json

end WikiRows
