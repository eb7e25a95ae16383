import WikiRows.Literal.Basic
import WikiRows.Instant.Printer
import WikiRows.Instant.Reader
import WikiRows.Json.Basic
import WikiRows.Json.Access

/-!
# Literals in JSON

A literal is stored as an object of its type and its value. The value may come before the type, and
is then held until the type is known. A null needs no value.
-/

namespace WikiRows

namespace Literal

open Json (Raw Access)

def tagged (type : String) (value : Json) : Json := .obj [("type", .str type), ("value", value)]

mutual

def toJson : Literal → Json
  | null => .obj [("type", .str "null")]
  | bool b => tagged "bool" (.bool b)
  | int i => tagged "int" (.int i.toInt)
  | float x => tagged "float" (if x.isFinite then .float x else .null)
  | str s => tagged "str" (.str s)
  | date t => tagged "date" (.str t.toText)
  | token name => tagged "enum" (.str name)
  | list items => tagged "list" (.arr (itemsToJson items))

def itemsToJson : List Literal → List Json
  | [] => []
  | item :: items => toJson item :: itemsToJson items

end

/-- The type of a literal in its stored form, the part that holds its value, and how to read it. -/
structure Stored (whole : Raw) where
  type : String
  value : Option (Raw.Part whole)
  access : Access

def typeNames : List String := ["null", "bool", "int", "float", "str", "date", "enum", "list"]

/-- The type that stands first in an array: a name or, once it is held, also a number. -/
def typeOf? (access : Access) (raw : Raw) : Option String :=
  match access, raw with
  | .held, .number (some (.int i)) => if 0 ≤ i then typeNames[i.toNat]? else none
  | _, raw => raw.text?

def stored? (access : Access) (raw : Raw) : Option (Stored raw) := do
  let inner ← access.enter
  match raw.members? with
  | some members =>
    match members.filter fun member => member.1 = "type" || member.1 = "value" with
    | [("type", type)] => return ⟨← type.raw.choice? inner, none, inner⟩
    | [("type", type), ("value", value)] => return ⟨← type.raw.choice? inner, some value, inner⟩
    | [("value", value), ("type", type)] =>
      if inner.holds value.raw then return ⟨← type.raw.choice? inner, some value, .held⟩ else none
    | _ => none
  | none =>
    match ← raw.items? with
    | [type, value] => return ⟨← typeOf? inner type.raw, some value, inner⟩
    | _ => none

def scalar? (type : String) (value : Raw) : Option Literal :=
  match type with
  | "null" => if value.isNull then some null else none
  | "bool" => value.bool?.map bool
  | "int" => value.int64?.map int
  | "float" => value.float?.map float
  | "str" => value.text?.map str
  | "date" => (value.text?.bind Instant.ofText?).map date
  | "enum" => value.text?.map token
  | _ => none

def ofRaw? (access : Access) (raw : Raw) : Option Literal := do
  let stored ← stored? access raw
  match stored.value with
  | none => if stored.type = "null" then some null else none
  | some value =>
    if stored.type = "list" then
      let inner ← stored.access.enter
      let items ← value.raw.items?
      let literals ← items.mapM fun item => ofRaw? inner item.raw
      return list literals
    else scalar? stored.type value.raw
termination_by sizeOf raw
decreasing_by exact Nat.lt_trans item.smaller value.smaller

def ofText? (text : String) : Option Literal := (Raw.ofText? text).bind (ofRaw? .text)

end Literal

end WikiRows
