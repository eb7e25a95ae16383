import WikiRows.Expr.Printer
import WikiRows.Schema.Basic
import WikiRows.Text.Quoted
import WikiRows.Url.Fault
import WikiRows.Xml.Document

/-!
# What can go wrong with a query

Each way to fail has its cause. The wording is in `Failure.message`, the broad kind in
`Failure.category`.
-/

namespace WikiRows

/-- The shape of rows: names in lower case with the texts of their types, in order, each pair
once. -/
abbrev Shape := List (String × String)

namespace Shape

def display (shape : Shape) : String :=
  "\x7b" ++ ", ".intercalate (shape.map fun field => field.1 ++ ": " ++ field.2) ++ "\x7d"

end Shape

inductive AnswerFault where
  | xml (fault : Xml.Fault)
  | noQuery (moduleName : String)
  | notSingle (element : String) (children : Nat)
  deriving DecidableEq, Repr

namespace AnswerFault

def message : AnswerFault → String
  | xml fault => fault.message
  | noQuery moduleName => "no <query> element in response for '" ++ moduleName ++ "'"
  | notSingle element children =>
    "expected exactly one element under <" ++ element ++ ">, found " ++ toString children

end AnswerFault

inductive Failure where
  /-- An expression that requests cannot say. -/
  | unsupported (e : Expr)
  | illegalMember (name : String)
  | unknownProperty (moduleName property : String)
  | invalidValue (property : String) (reason : Mismatch)
  | shapeMismatch (expected found : Shape)
  /-- A sort key that is a member of something else than the row. -/
  | nestedSortKey (key : Expr)
  /-- A selection that declares the shape of the module and is not the row. -/
  | notIdentity (selector : Expr)
  | badBaseUrl (url : String) (fault : Url.Fault)
  | transport
  | io (text : String)
  /-- An answer that cannot be used, with its beginning. -/
  | answer (fault : AnswerFault) (excerpt : String)
  /-- An error that the API reports. -/
  | api (code info : String)
  deriving Repr

inductive Category where
  | compile
  | transport
  | protocol
  | configuration
  deriving DecidableEq, Repr

namespace Failure

def category : Failure → Category
  | unsupported _ | illegalMember _ | unknownProperty _ _ | invalidValue _ _ | shapeMismatch _ _ =>
    .compile
  | nestedSortKey _ | notIdentity _ | badBaseUrl _ _ => .configuration
  | transport | io _ => .transport
  | answer _ _ | api _ _ => .protocol

def message : Failure → String
  | unsupported e => "Unsupported expression: " ++ e.display
  | illegalMember name => "Unsupported expression: illegal member name '" ++ name ++ "'"
  | unknownProperty moduleName property =>
    "Unknown property '" ++ property ++ "' on module '" ++ moduleName ++ "'"
  | invalidValue property reason => "Invalid value for '" ++ property ++ "': " ++ reason.message
  | shapeMismatch expected found =>
    "Result shape mismatch: expected " ++ expected.display ++ ", found " ++ found.display
  | nestedSortKey key =>
    "Configuration error: order key must be a member of the query parameter: " ++ key.display
  | notIdentity selector =>
    "Configuration error: select returning the module's own shape has to be identity: " ++
      selector.display
  | badBaseUrl url fault =>
    "Configuration error: invalid base URL '" ++ url ++ "': " ++ fault.message
  | transport => "Transport error"
  | io text => "IO error: " ++ text
  | answer fault excerpt =>
    "Protocol error: " ++ fault.message ++ " (response: " ++ Text.quote excerpt ++ ")"
  | api code info => "API error " ++ code ++ ": " ++ info

/-- The beginning of a text that a failure shows. -/
def excerpt (s : List Char) : String := String.ofList (s.take 200)

end Failure

end WikiRows
