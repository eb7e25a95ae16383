import WikiRows.Projection

/-!
# Clauses

What the clauses of a query come to: values by wire name in the order in which the names were first
given, a sort key and direction, and the selection. A value for a name that has one takes its
place.
-/

namespace WikiRows

structure Clauses where
  values : List (String × String)
  sort : Option String
  ascending : Option Bool
  /-- The properties to fetch, in order; without them, all. -/
  properties : Option (List String)
  projection : Option Projection
  deriving Repr

namespace Clauses

def empty : Clauses := ⟨[], none, none, none, none⟩

def setValue (name value : String) : List (String × String) → List (String × String)
  | [] => [(name, value)]
  | (n, v) :: rest => if n = name then (n, value) :: rest else (n, v) :: setValue name value rest

def value? (c : Clauses) (name : String) : Option String := c.values.lookup name

def withValue (c : Clauses) (name value : String) : Clauses :=
  { c with values := setValue name value c.values }

/-- Sets the sort key, or the natural order, and the direction. -/
def withSort (c : Clauses) (key : Option String) (ascending : Bool) : Clauses :=
  { c with sort := key, ascending := some ascending }

def withSelection (c : Clauses) (properties : Option (List String)) (p : Projection) : Clauses :=
  { c with properties, projection := some p }

end Clauses

end WikiRows
