import WikiRows.Expr.Json
import WikiRows.Query.Basic

/-!
# Query specifications

The clauses of a query as data, to be stored in a file. They are applied in the order filter, sort
clause, selection.
-/

namespace WikiRows

open Json (Raw Access)

structure SortSpec where
  key : Expr
  ascending : Bool
  deriving Repr

structure QuerySpec where
  filter : Option Expr
  orderBy : Option SortSpec
  select : Option Expr
  deriving Repr

namespace SortSpec

def toJson (s : SortSpec) : Json := .obj [("key", s.key.toJson), ("ascending", .bool s.ascending)]

/-- Reads a sort clause. It is ascending unless it says otherwise. -/
def ofRaw? (access : Access) (raw : Raw) : Option SortSpec := do
  let inner ← access.enter
  match ← raw.fields? ["key", "ascending"] with
  | [some key, ascending] =>
    let key ← Expr.ofRaw? inner key.raw
    let ascending ← match ascending with
      | some ascending => ascending.raw.bool?
      | none => some true
    return ⟨key, ascending⟩
  | _ => none

end SortSpec

namespace QuerySpec

def empty : QuerySpec := ⟨none, none, none⟩

def toJson (s : QuerySpec) : Json :=
  let orNull (j : Option Json) : Json := j.getD .null
  .obj [("filter", orNull (s.filter.map Expr.toJson)),
    ("order_by", orNull (s.orderBy.map SortSpec.toJson)),
    ("select", orNull (s.select.map Expr.toJson))]

/-- Reads a clause that may be left out or null. -/
def clause? {α : Type} {whole : Raw} (read : Raw → Option α) :
    Option (Raw.Part whole) → Option (Option α)
  | none => some none
  | some part => if part.raw.isNull then some none else (read part.raw).map some

def ofRaw? (access : Access) (raw : Raw) : Option QuerySpec := do
  let inner ← access.enter
  match ← raw.fields? ["filter", "order_by", "select"] with
  | [filter, orderBy, select] =>
    return {
      filter := ← clause? (Expr.ofRaw? inner) filter
      orderBy := ← clause? (SortSpec.ofRaw? inner) orderBy
      select := ← clause? (Expr.ofRaw? inner) select }
  | _ => none

def ofText? (text : String) : Option QuerySpec := (Raw.ofText? text).bind (ofRaw? .text)

end QuerySpec

namespace Query

def ofSpec (m : ApiModule) (s : QuerySpec) : Except Failure Query := do
  let q := Query.new m
  let q ← match s.filter with
    | some predicate => q.filter predicate
    | none => .ok q
  let q ← match s.orderBy with
    | some sort => q.orderBy sort.key sort.ascending
    | none => .ok q
  match s.select with
  | some selector => q.select selector
  | none => .ok q

end Query

end WikiRows
