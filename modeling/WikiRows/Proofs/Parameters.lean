import Mathlib
import WikiRows.Query.Basic

/-!
# The names of the parameters of a request

A request has two parameters of the protocol, and behind them only such whose names begin with the
stem of the module. `Query.stemless` lists what follows the stem, in the order of the parameters.
-/

namespace WikiRows

namespace Query

def listsProperties (m : ApiModule) (c : Clauses) : Bool :=
  c.properties.isSome || !(fetched m c).isEmpty

def kindName (m : ApiModule) : String := if m.answersList then "list" else "meta"

def laterParameters (m : ApiModule) (c : Clauses) : List Parameter :=
  (if m.answersList then [.text (m.stem ++ "limit") "max"] else []) ++
    c.values.map (fun w => .text (m.stem ++ w.1) w.2) ++
    c.sort.toList.map (fun key => .text (m.stem ++ "sort") key) ++
    c.ascending.toList.map (fun ascending => .text (m.stem ++ "dir") (directionText ascending))

/-- What follows the stem in the names of the parameters behind the list of properties. -/
def laterStemless (m : ApiModule) (c : Clauses) : List String :=
  (if m.answersList then ["limit"] else []) ++ c.values.map Prod.fst ++
    c.sort.toList.map (fun _ => "sort") ++ c.ascending.toList.map (fun _ => "dir")

def stemless (m : ApiModule) (c : Clauses) : List String :=
  (if listsProperties m c then ["prop"] else []) ++ laterStemless m c

theorem requestOf_eq (m : ApiModule) (c : Clauses) :
    requestOf m c = .text "action" "query" :: .text (kindName m) m.name ::
      (propertyParameter m c ++ laterParameters m c) := by
  simp [requestOf, laterParameters, kindName]

theorem names_propertyParameter (m : ApiModule) (c : Clauses) :
    (propertyParameter m c).map Parameter.name =
      (if listsProperties m c then ["prop"] else []).map (m.stem ++ ·) := by
  unfold propertyParameter listsProperties
  dsimp only
  split_ifs <;> rfl

theorem names_laterParameters (m : ApiModule) (c : Clauses) :
    (laterParameters m c).map Parameter.name = (laterStemless m c).map (m.stem ++ ·) := by
  unfold laterParameters laterStemless
  cases m.answersList <;> cases c.sort <;> cases c.ascending <;>
    simp [Parameter.name, Function.comp_def]

theorem names_requestOf (m : ApiModule) (c : Clauses) :
    (requestOf m c).map Parameter.name =
      "action" :: kindName m :: (stemless m c).map (m.stem ++ ·) := by
  rw [requestOf_eq, List.map_cons, List.map_cons, List.map_append, names_propertyParameter,
    names_laterParameters, ← List.map_append]
  rfl

theorem mem_laterStemless {m : ApiModule} {c : Clauses} {name : String} :
    name ∈ laterStemless m c ↔
      name = "limit" ∧ m.answersList ∨ name ∈ c.values.map Prod.fst ∨
        name = "sort" ∧ c.sort.isSome ∨ name = "dir" ∧ c.ascending.isSome := by
  unfold laterStemless
  cases m.answersList <;> cases c.sort <;> cases c.ascending <;> simp

end Query

end WikiRows
