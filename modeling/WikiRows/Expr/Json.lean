import WikiRows.Expr.Basic
import WikiRows.Literal.Json

/-!
# Expressions in JSON

An expression is stored as an object with its kind and, by name, its parts. It is held as a whole
before it is read, whatever its kind.
-/

namespace WikiRows

namespace BinaryOp

def kind : BinaryOp → String
  | equal => "equal"
  | notEqual => "not_equal"
  | and => "and"
  | or => "or"

end BinaryOp

namespace Expr

open Json (Raw Access)

def tagged (kind : String) (parts : List (String × Json)) : Json :=
  .obj (("kind", .str kind) :: parts)

mutual

def toJson : Expr → Json
  | row => tagged "identity" []
  | member target name => tagged "member" [("target", toJson target), ("name", .str name)]
  | const value => tagged "constant" [("value", value.toJson)]
  | not operand => tagged "not" [("operand", toJson operand)]
  | binary op left right => tagged op.kind [("left", toJson left), ("right", toJson right)]
  | call function args =>
    tagged "call" [("function", .str function.name), ("args", .arr (argsToJson args))]
  | record fields => tagged "record" [("fields", .arr (fieldsToJson fields))]

def argsToJson : List Expr → List Json
  | [] => []
  | arg :: args => toJson arg :: argsToJson args

def fieldsToJson : List (String × Expr) → List Json
  | [] => []
  | (name, value) :: fields => .arr [.str name, toJson value] :: fieldsToJson fields

end

def kinds : List String :=
  ["identity", "member", "constant", "not", "equal", "not_equal", "and", "or", "call", "record"]

def partNames (kind : String) : List String :=
  match kind with
  | "member" => ["target", "name"]
  | "constant" => ["value"]
  | "not" => ["operand"]
  | "equal" | "not_equal" | "and" | "or" => ["left", "right"]
  | "call" => ["function", "args"]
  | "record" => ["fields"]
  | _ => []

/-- A kind by its name or by its place among the kinds. -/
def kind? : Raw → Option String
  | .string s => s
  | .number (some (.int i)) => if 0 ≤ i then kinds[i.toNat]? else none
  | _ => none

def binaryOp? (kind : String) : Option BinaryOp :=
  match kind with
  | "equal" => some .equal
  | "not_equal" => some .notEqual
  | "and" => some .and
  | "or" => some .or
  | _ => none

/-- The kind of an expression in its stored form, and its parts in their order. -/
structure Stored (whole : Raw) where
  kind : Raw
  parts : List String → Option (List (Option (Raw.Part whole)))

/-- Takes the stored form apart: an object with the parts by name, or an array with the kind in
front of the parts. -/
def stored? (raw : Raw) : Option (Stored raw) :=
  match raw.members? with
  | some members => do
    let kind ← (← Raw.unique? members "kind")
    return ⟨kind.raw, fun names => names.mapM (Raw.unique? members)⟩
  | none => do
    match ← raw.items? with
    | kind :: rest =>
      return ⟨kind.raw, fun names =>
        if rest.length = names.length then some (rest.map some) else none⟩
    | [] => none

def ofHeld? (raw : Raw) : Option Expr := do
  let stored ← stored? raw
  let kind ← kind? stored.kind
  let parts ← (← stored.parts (partNames kind)).mapM id
  match kind, parts with
  | "identity", [] => return row
  | "member", [target, name] => return member (← ofHeld? target.raw) (← name.raw.text?)
  | "constant", [value] => return const (← Literal.ofRaw? .held value.raw)
  | "not", [operand] => return not (← ofHeld? operand.raw)
  | "call", [function, args] =>
    let function ← (← function.raw.choice? .held) |> Function.ofName?
    let items ← args.raw.items?
    let args ← items.mapM fun item => ofHeld? item.raw
    return call function args
  | "record", [fields] =>
    let items ← fields.raw.items?
    let fields ← items.mapM fun item => do
      match ← item.raw.items? with
      | [name, value] => return (← name.raw.text?, ← ofHeld? value.raw)
      | _ => none
    return record fields
  | kind, [left, right] =>
    return binary (← binaryOp? kind) (← ofHeld? left.raw) (← ofHeld? right.raw)
  | _, _ => none
termination_by sizeOf raw
decreasing_by
  · exact target.smaller
  · exact operand.smaller
  · exact Nat.lt_trans item.smaller args.smaller
  · exact Nat.lt_trans value.smaller (Nat.lt_trans item.smaller fields.smaller)
  · exact left.smaller
  · exact right.smaller

/-- The kind of an expression that is not held yet has to be a name. -/
def namesKind (raw : Raw) : Bool :=
  match stored? raw with
  | some stored => stored.kind.text?.isSome
  | none => false

def ofRaw? (access : Access) (raw : Raw) : Option Expr :=
  match access with
  | .held => ofHeld? raw
  | .streamed _ => if access.holds raw && namesKind raw then ofHeld? raw else none

def ofText? (text : String) : Option Expr := (Raw.ofText? text).bind (ofRaw? .text)

end Expr

end WikiRows
