import WikiRows.Instant.Basic

/-!
# Literals

The constants of query expressions.
-/

namespace WikiRows

/-- A constant. A token is the declared name of a member of an enumeration. -/
inductive Literal where
  | null
  | bool (b : Bool)
  | int (i : Int64)
  | float (x : Float)
  | str (s : String)
  | date (t : Instant)
  | token (name : String)
  | list (items : List Literal)
  deriving Repr, Inhabited

end WikiRows
