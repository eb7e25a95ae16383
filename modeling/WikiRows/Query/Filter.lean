import WikiRows.Failure
import WikiRows.MemberName
import WikiRows.Query.Clauses

/-!
# Filters

A filter is a conjunction of flags, negated flags and equalities between a member of the row and a
constant; nothing else can be said in a request. Its conjuncts are compiled from left to right.
-/

namespace WikiRows

namespace ApiModule

/-- The wire name of a member and the property that it names. -/
def resolve (m : ApiModule) (member : String) : Except Failure (String × Property) :=
  if MemberName.isLegal member then
    let wire := MemberName.wire member
    match m.property? wire with
    | some p => .ok (wire, p)
    | none => .error (.unknownProperty m.name member)
  else .error (.illegalMember member)

end ApiModule

namespace Expr

/-- A member of the row and the constant that it is compared with, in either order. -/
def memberAndConstant? (left right : Expr) : Option (String × Literal) :=
  match left.rowMember?, right with
  | some name, const value => some (name, value)
  | _, _ =>
    match right.rowMember?, left with
    | some name, const value => some (name, value)
    | _, _ => none

end Expr

namespace Clauses

def flagValue : String := ""

def filterFlag (m : ApiModule) (name : String) (c : Clauses) : Except Failure Clauses := do
  let (wire, _) ← m.resolve name
  return c.withValue wire flagValue

/-- A flag that is switched off is one that is not sent. -/
def filterNoFlag (m : ApiModule) (name : String) (c : Clauses) : Except Failure Clauses := do
  let _ ← m.resolve name
  return c

/-- An equality sends the wire text of the constant, if it has one. -/
def filterEqual (m : ApiModule) (name : String) (value : Literal) (c : Clauses) :
    Except Failure Clauses := do
  let (wire, p) ← m.resolve name
  match p.check value with
  | .error reason => throw (.invalidValue name reason)
  | .ok () =>
    match value.wire? with
    | some text => return c.withValue wire text
    | none => return c

def filter (m : ApiModule) (c : Clauses) : Expr → Except Failure Clauses
  | .member target name =>
    match (Expr.member target name).rowMember? with
    | some name => filterFlag m name c
    | none => .error (.unsupported (.member target name))
  | .not operand =>
    match operand.rowMember? with
    | some name => filterNoFlag m name c
    | none => .error (.unsupported (.not operand))
  | .binary .equal left right =>
    match Expr.memberAndConstant? left right with
    | some (name, value) => filterEqual m name value c
    | none => .error (.unsupported (.binary .equal left right))
  | .binary .and left right =>
    match filter m c left with
    | .ok c => filter m c right
    | .error failure => .error failure
  | predicate => .error (.unsupported predicate)

end Clauses

end WikiRows
