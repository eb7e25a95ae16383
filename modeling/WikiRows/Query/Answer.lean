import WikiRows.Query.Basic
import WikiRows.Xml.Printer

/-!
# Answers

The rows of an answer are the children of the element of the module, which is below `query`, or,
for a module with a single row, the only child of `query`. Every row is projected. An answer may
instead report an error of the API.
-/

namespace WikiRows

inductive Answer where
  | list (rows : List Json)
  | single (row : Json)
  deriving Repr

namespace Xml

namespace Element

def onlyChild (e : Element) : Except Failure Element :=
  match e.children with
  | [child] => .ok child
  | children =>
    .error (.answer (.notSingle e.name children.length) (Failure.excerpt e.display.toList))

end Element

namespace Document

def read (body : String) : Except Failure Document :=
  match ofChars body.toList with
  | .ok d => .ok d
  | .error fault => .error (.answer (.xml fault) (Failure.excerpt body.toList))

def checkApiError (d : Document) : Except Failure Unit :=
  match d.find? ["api", "error"] with
  | some e => .error (.api ((e.attribute? "code").getD "") ((e.attribute? "info").getD ""))
  | none => .ok ()

end Document

end Xml

namespace Clauses

/-- Projects a row. Without a selection, rows are left as they are. -/
def project (c : Clauses) (r : Row) : Json := (c.projection.getD .wholeRow).apply r

end Clauses

namespace Query

def read (q : Query) (d : Xml.Document) : Except Failure Answer := do
  d.checkApiError
  if q.target.answersList then
    match d.find? ["api", "query", q.target.name] with
    | some rows => return .list (rows.children.map fun row => q.clauses.project row.toRow)
    | none => return .list []
  else
    match d.find? ["api", "query"] with
    | some e =>
      let row ← e.onlyChild
      return .single (q.clauses.project row.toRow)
    | none =>
      throw (.answer (.noQuery q.target.name)
        (Failure.excerpt ((d.root.map Xml.Element.display).getD "").toList))

end Query

end WikiRows
