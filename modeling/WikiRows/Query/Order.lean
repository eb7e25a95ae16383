import WikiRows.Query.Filter

/-!
# Sort clauses

Rows are sorted by a member of the row, or by the row itself, which is their natural order.
-/

namespace WikiRows

namespace Clauses

def orderBy (m : ApiModule) (c : Clauses) (key : Expr) (ascending : Bool) :
    Except Failure Clauses :=
  match key with
  | .row => .ok (c.withSort none ascending)
  | .member .row name => do
    let (wire, _) ← m.resolve name
    return c.withSort (some wire) ascending
  | .member target name => .error (.nestedSortKey (.member target name))
  | key => .error (.unsupported key)

end Clauses

end WikiRows
