import WikiRows.Query.Filter

/-!
# Selections

A selection is projected row by row, and only the properties that it reads are fetched, unless it
uses the row as a whole. A selection of the row itself may declare the shape of the rows, which then
has to be that of the module.
-/

namespace WikiRows

namespace Expr

mutual

/-- The members of the row that an expression reads. -/
def rowMembers : Expr → List String
  | row => []
  | member row name => [name]
  | member target _ => rowMembers target
  | const _ => []
  | not operand => rowMembers operand
  | binary _ left right => rowMembers left ++ rowMembers right
  | call _ args => argsRowMembers args
  | record fields => fieldsRowMembers fields

def argsRowMembers : List Expr → List String
  | [] => []
  | arg :: args => rowMembers arg ++ argsRowMembers args

def fieldsRowMembers : List (String × Expr) → List String
  | [] => []
  | (_, value) :: fields => rowMembers value ++ fieldsRowMembers fields

end

mutual

/-- Whether an expression uses the row otherwise than to read a member of it. -/
def usesWholeRow : Expr → Bool
  | row => true
  | member row _ => false
  | member target _ => usesWholeRow target
  | const _ => false
  | not operand => usesWholeRow operand
  | binary _ left right => usesWholeRow left || usesWholeRow right
  | call _ args => argsUseWholeRow args
  | record fields => fieldsUseWholeRow fields

def argsUseWholeRow : List Expr → Bool
  | [] => false
  | arg :: args => usesWholeRow arg || argsUseWholeRow args

def fieldsUseWholeRow : List (String × Expr) → Bool
  | [] => false
  | (_, value) :: fields => usesWholeRow value || fieldsUseWholeRow fields

end

end Expr

namespace Projection

def ofSelector : Expr → Projection
  | .row => wholeRow
  | selector => of selector

end Projection

namespace ApiModule

/-- The wire names of members, the first that has none being the failure. -/
def resolveAll (m : ApiModule) : List String → Except Failure (List String)
  | [] => .ok []
  | name :: names => do
    let (wire, _) ← m.resolve name
    let wires ← resolveAll m names
    return wire :: wires

end ApiModule

namespace Shape

def insert (field : String × String) : Shape → Shape
  | [] => [field]
  | f :: rest =>
    if field.1 < f.1 ∨ (field.1 = f.1 ∧ field.2 < f.2) then field :: f :: rest
    else if field = f then f :: rest
    else f :: insert field rest

def ofProperties (properties : List Property) : Shape :=
  properties.foldl (fun shape p => insert (Text.lower p.name, p.type.display) shape) []

end Shape

namespace Clauses

/-- Sets the selection. The members it reads are looked up in the order of their names. -/
def select (m : ApiModule) (c : Clauses) (selector : Expr) : Except Failure Clauses := do
  let wires ← m.resolveAll (NameSet.ofList selector.rowMembers)
  let properties := if selector.usesWholeRow then none else some (NameSet.ofList wires)
  return c.withSelection properties (.ofSelector selector)

def selectIdentity (m : ApiModule) (c : Clauses) (selector : Expr) (declared : List Property) :
    Except Failure Clauses :=
  match selector with
  | .row =>
    let expected := Shape.ofProperties m.properties
    let found := Shape.ofProperties declared
    if expected = found then .ok c else .error (.shapeMismatch expected found)
  | selector => .error (.notIdentity selector)

end Clauses

end WikiRows
