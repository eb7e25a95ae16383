import WikiRows.Text.Case

/-!
# Member names

A member of a row is written by its name in an expression, and goes by another name in requests and
rows: its name in lower case, with two exceptions. The text of a row is called `value` and goes by
`*`, and `defaultValue` goes by `default`, which is therefore no member name.
-/

namespace WikiRows

namespace MemberName

/-- The name of a member in requests and rows. -/
def wire (name : String) : String :=
  let lowered := Text.lower name
  if lowered = "value" then "*" else if lowered = "defaultvalue" then "default" else lowered

def isStart (c : Char) : Bool := c.isAlpha || c = '_'

def isPart (c : Char) : Bool := c.isAlphanum || c = '_'

/-- An identifier of ASCII letters, digits and underscores, other than `default`. -/
def isLegal (name : String) : Bool :=
  match name.toList with
  | [] => false
  | c :: rest => isStart c && rest.all isPart && !Text.asciiCaseEq name "default"

end MemberName

end WikiRows
