import WikiRows.Schema.Basic
import WikiRows.Json.Basic
import WikiRows.Json.Access

/-!
# Schemas in JSON
-/

namespace WikiRows

open Json (Raw Access)

namespace WireType

def toJson : WireType → Json
  | named name => .str name
  | oneOf tokens => .arr (tokens.map .str)

def ofRaw? (raw : Raw) : Option WireType :=
  match raw.text? with
  | some name => some (named name)
  | none => do
    let items ← raw.items?
    let tokens ← items.mapM (·.raw.text?)
    return oneOf tokens

end WireType

namespace Property

def toJson (p : Property) : Json :=
  .obj [("name", .str p.name), ("wireType", p.type.toJson), ("nullable", .bool p.nullable)]

/-- Reads a property. It is not nullable unless it says so. -/
def ofRaw? (access : Access) (raw : Raw) : Option Property := do
  let inner ← access.enter
  match ← raw.fields? ["name", "wireType", "nullable"] with
  | [some name, some type, nullable] =>
    let name ← name.raw.text?
    let type ← if inner.holds type.raw then WireType.ofRaw? type.raw else none
    let nullable ← match nullable with
      | some nullable => nullable.raw.bool?
      | none => some false
    return ⟨name, type, nullable⟩
  | _ => none

end Property

namespace ApiModule

def toJson (m : ApiModule) : Json :=
  .obj [("moduleName", .str m.name), ("wireParameterPrefix", .str m.stem),
    ("propertyList", .arr (m.properties.map Property.toJson)), ("listResult", .bool m.answersList)]

def propertiesOfRaw? (access : Access) (raw : Raw) : Option (List Property) := do
  let inner ← access.enter
  let items ← raw.items?
  items.mapM fun item => Property.ofRaw? inner item.raw

/-- Reads a module. All but its name may be left out. -/
def ofRaw? (access : Access) (raw : Raw) : Option ApiModule := do
  let inner ← access.enter
  match ← raw.fields? ["moduleName", "wireParameterPrefix", "propertyList", "listResult"] with
  | [some name, stem, properties, answersList] =>
    let name ← name.raw.text?
    let stem ← match stem with
      | some stem => stem.raw.text?
      | none => some ""
    let properties ← match properties with
      | some properties => propertiesOfRaw? inner properties.raw
      | none => some []
    let answersList ← match answersList with
      | some answersList => answersList.raw.bool?
      | none => some true
    return ⟨name, stem, properties, answersList⟩
  | _ => none

def ofText? (text : String) : Option ApiModule := (Raw.ofText? text).bind (ofRaw? .text)

end ApiModule

end WikiRows
