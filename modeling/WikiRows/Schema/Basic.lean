import WikiRows.Literal.Printer
import WikiRows.Text.Case

/-!
# Modules of the API and their properties

A module answers queries over its rows. Its schema lists the properties of a row with their types.
`Property.check` says whether a literal may be compared with a property: a list is checked item by
item, and types other than enumerations and the three literal types take any literal.
-/

namespace WikiRows

/-- The declared type of a property: a named type, or an enumeration of tokens. -/
inductive WireType where
  | named (name : String)
  | oneOf (tokens : List String)
  deriving DecidableEq, Repr

namespace WireType

def display : WireType → String
  | named name => name
  | oneOf tokens => "enum(" ++ "|".intercalate tokens ++ ")"

end WireType

structure Property where
  name : String
  type : WireType
  nullable : Bool
  deriving DecidableEq, Repr

inductive Mismatch where
  | null
  | unknownToken (token : String) (allowed : List String)
  | notToken (value : Literal)
  | notOfType (type : String) (value : Literal)
  deriving Repr

namespace Mismatch

def message : Mismatch → String
  | null => "property is not nullable"
  | unknownToken token allowed => "'" ++ token ++ "' is not one of " ++ "|".intercalate allowed
  | notToken value => "expected an enum token, got " ++ value.display
  | notOfType type value => "expected a " ++ type ++ " literal, got " ++ value.display

end Mismatch

namespace Property

/-- The named types that have literals of their own. -/
def isLiteralType (name : String) : Bool :=
  name = "boolean" || name = "integer" || name = "timestamp"

/-- Whether a literal that is not a list is one of a named type. -/
def isLiteralOf (type : String) : Literal → Bool
  | .bool _ => type = "boolean"
  | .int _ => type = "integer"
  | .date _ => type = "timestamp"
  | _ => false

def checkToken (token : String) (allowed : List String) : Except Mismatch Unit :=
  if allowed.contains token then .ok () else .error (.unknownToken token allowed)

mutual

def check (p : Property) : Literal → Except Mismatch Unit
  | .null => if p.nullable then .ok () else .error .null
  | .list items =>
    match p.type with
    | .oneOf _ => checkItems p items
    | .named type => if isLiteralType type then checkItems p items else .ok ()
  | value =>
    match p.type, value with
    | .oneOf allowed, .token token => checkToken token allowed
    | .oneOf allowed, .str token => checkToken token allowed
    | .oneOf _, value => .error (.notToken value)
    | .named type, value =>
      if isLiteralType type && !isLiteralOf type value then .error (.notOfType type value)
      else .ok ()

/-- The first item that does not fit decides. -/
def checkItems (p : Property) : List Literal → Except Mismatch Unit
  | [] => .ok ()
  | item :: items =>
    match check p item with
    | .ok () => checkItems p items
    | .error mismatch => .error mismatch

end

end Property

structure ApiModule where
  name : String
  /-- What the names of its parameters begin with. -/
  stem : String
  properties : List Property
  /-- Whether it answers with a list of rows or with a single one. -/
  answersList : Bool
  deriving DecidableEq, Repr

namespace ApiModule

/-- The first property of that name, whatever the case of its ASCII letters. -/
def property? (m : ApiModule) (name : String) : Option Property :=
  m.properties.find? fun p => Text.asciiCaseEq p.name name

end ApiModule

end WikiRows
