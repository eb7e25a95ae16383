import WikiRows.Expr.Basic
import WikiRows.Json.Printer
import WikiRows.Keyed
import WikiRows.Literal.Printer
import WikiRows.MemberName
import WikiRows.Text.Case
import WikiRows.Xml.Element

/-!
# Projections

`Expr.eval` gives the JSON value of an expression for a row. A member that is not there is null.
Comparisons compare texts, so that a number is equal to the attribute that spells it; whatever is
neither null, false nor zero counts as true.
-/

namespace WikiRows

namespace Row

def toJson (row : Row) : Json := .obj (row.map fun (name, value) => (name, .str value))

end Row

namespace Literal

mutual

/-- The value of a constant in a projection. What JSON has no kind for is its wire text. -/
def value : Literal → Json
  | null => .null
  | bool b => .bool b
  | int i => .int i.toInt
  | float x => if x.isFinite then .float x else .null
  | str s => .str s
  | date t => .str t.toSecondText
  | token name => .str name
  | list items => .arr (itemValues items)

def itemValues : List Literal → List Json
  | [] => []
  | item :: items => value item :: itemValues items

end

end Literal

namespace Json

/-- Null, false and zero are false, all else is true. -/
def truthy : Json → Bool
  | null => false
  | bool b => b
  | int i => i ≠ 0
  | float x => x != 0
  | _ => true

/-- The text of a value: none of null, the string itself, else its JSON text. -/
def text? : Json → Option String
  | null => none
  | str s => some s
  | j => some j.compact

end Json

namespace Function

/-- The value of a call. Only the first argument counts, except where texts are joined. -/
def apply (f : Function) (args : List Json) : Json :=
  match f with
  | lower =>
    match args.head?.bind Json.text? with
    | some s => .str (Text.lower s)
    | none => .null
  | upper =>
    match args.head?.bind Json.text? with
    | some s => .str (Text.upper s)
    | none => .null
  | length =>
    match args with
    | .str s :: _ => .int s.length
    | .arr items :: _ => .int items.length
    | .obj members :: _ => .int members.length
    | _ => .int 0
  | concat => .str (String.join (args.filterMap Json.text?))

end Function

namespace BinaryOp

def apply (op : BinaryOp) (left right : Json) : Json :=
  match op with
  | equal => .bool (left.text? = right.text?)
  | notEqual => .bool (left.text? ≠ right.text?)
  | and => .bool (left.truthy && right.truthy)
  | or => .bool (left.truthy || right.truthy)

end BinaryOp

namespace Expr

mutual

def eval (r : Row) : Expr → Json
  | row => r.toJson
  | member target name => ((eval r target).get? (MemberName.wire name)).getD .null
  | const value => value.value
  | not operand => .bool (!(eval r operand).truthy)
  | binary op left right => op.apply (eval r left) (eval r right)
  | call f args => f.apply (evalArgs r args)
  | record fields => .obj (Keyed.ofList (evalFields r fields))

def evalArgs (r : Row) : List Expr → List Json
  | [] => []
  | arg :: args => eval r arg :: evalArgs r args

def evalFields (r : Row) : List (String × Expr) → List (String × Json)
  | [] => []
  | (name, value) :: fields => (name, eval r value) :: evalFields r fields

end

end Expr

inductive Projection where
  | wholeRow
  | of (selector : Expr)
  deriving Repr

namespace Projection

def apply (p : Projection) (r : Row) : Json :=
  match p with
  | wholeRow => r.toJson
  | of selector => selector.eval r

end Projection

end WikiRows
