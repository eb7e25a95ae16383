import WikiRows.Parameter
import WikiRows.Query.Order
import WikiRows.Query.Selection

/-!
# Queries

A query is what has been said about the rows of one module. Every clause gives a new query and
leaves the old one as it was. `Query.request` lists the parameters of a query in the order in
which they are sent.
-/

namespace WikiRows

structure Query where
  target : ApiModule
  clauses : Clauses
  deriving Repr

namespace Query

def new (m : ApiModule) : Query := ⟨m, .empty⟩

def withClauses (q : Query) (compiled : Except Failure Clauses) : Except Failure Query :=
  compiled.map fun clauses => { q with clauses }

def filter (q : Query) (predicate : Expr) : Except Failure Query :=
  q.withClauses (q.clauses.filter q.target predicate)

def orderBy (q : Query) (key : Expr) (ascending : Bool) : Except Failure Query :=
  q.withClauses (q.clauses.orderBy q.target key ascending)

def select (q : Query) (selector : Expr) : Except Failure Query :=
  q.withClauses (q.clauses.select q.target selector)

def selectIdentity (q : Query) (declared : List Property) : Except Failure Query :=
  q.withClauses (q.clauses.selectIdentity q.target .row declared)

/-- The names of the properties to fetch. The text of a row is always there and has no name. -/
def fetched (m : ApiModule) (c : Clauses) : List String :=
  (c.properties.getD (m.properties.map Property.name)).filter (· ≠ "*")

/-- The list of properties, which is sent if there are any or if they were selected. -/
def propertyParameter (m : ApiModule) (c : Clauses) : List Parameter :=
  let names := fetched m c
  if c.properties.isSome || !names.isEmpty then
    [.text (m.stem ++ "prop") ("|".intercalate names)]
  else []

def directionText : Bool → String
  | true => "ascending"
  | false => "descending"

/-- The parameters of compiled clauses: those of the module, the values, the sort clause. -/
def requestOf (m : ApiModule) (c : Clauses) : List Parameter :=
  [.text "action" "query", .text (if m.answersList then "list" else "meta") m.name] ++
    propertyParameter m c ++
    (if m.answersList then [.text (m.stem ++ "limit") "max"] else []) ++
    c.values.map (fun (name, value) => .text (m.stem ++ name) value) ++
    c.sort.toList.map (fun key => .text (m.stem ++ "sort") key) ++
    c.ascending.toList.map (fun ascending => .text (m.stem ++ "dir") (directionText ascending))

def request (q : Query) : List Parameter := requestOf q.target q.clauses

end Query

end WikiRows
