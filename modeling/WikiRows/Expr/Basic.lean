import WikiRows.Literal.Basic

/-!
# Query expressions

Filters, sort keys and projections are trees over one parameter, the row that is filtered, sorted or
projected. Everything else hangs off it.
-/

namespace WikiRows

inductive Function where
  | lower
  | upper
  | length
  | concat
  deriving DecidableEq, Repr

inductive BinaryOp where
  | equal
  | notEqual
  | and
  | or
  deriving DecidableEq, Repr

inductive Expr where
  /-- The parameter. -/
  | row
  /-- A member of what an expression denotes. -/
  | member (target : Expr) (name : String)
  | const (value : Literal)
  | not (operand : Expr)
  | binary (op : BinaryOp) (left right : Expr)
  | call (function : Function) (args : List Expr)
  /-- A new record with these fields. -/
  | record (fields : List (String × Expr))
  deriving Repr, Inhabited

namespace Function

def name : Function → String
  | lower => "lower"
  | upper => "upper"
  | length => "length"
  | concat => "concat"

def ofName? : String → Option Function
  | "lower" => some lower
  | "upper" => some upper
  | "length" => some length
  | "concat" => some concat
  | _ => none

end Function

namespace Expr

/-- The name of a member of the parameter itself. -/
def rowMember? : Expr → Option String
  | member row name => some name
  | _ => none

mutual

def constants : Expr → List Literal
  | row => []
  | member target _ => constants target
  | const value => [value]
  | not operand => constants operand
  | binary _ left right => constants left ++ constants right
  | call _ args => argsConstants args
  | record fields => fieldsConstants fields

def argsConstants : List Expr → List Literal
  | [] => []
  | arg :: args => constants arg ++ argsConstants args

def fieldsConstants : List (String × Expr) → List Literal
  | [] => []
  | (_, value) :: fields => constants value ++ fieldsConstants fields

end

end Expr

end WikiRows
