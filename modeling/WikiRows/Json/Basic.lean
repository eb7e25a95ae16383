/-!
# JSON values

Whole numbers and doubles are kept apart, so that each is written in its own way. The members of
an object are a list in the order in which they are written.
-/

namespace WikiRows

inductive Json where
  | null
  | bool (b : Bool)
  | int (i : Int)
  | float (x : Float)
  | str (s : String)
  | arr (items : List Json)
  | obj (members : List (String × Json))
  deriving Repr, Inhabited

namespace Json

/-- The value of the first member with this name, if there is one. -/
def get? (name : String) : Json → Option Json
  | obj members => members.lookup name
  | _ => none

end Json

end WikiRows
