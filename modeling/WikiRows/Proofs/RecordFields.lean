import WikiRows.Proofs.WireNames

/-!
# Fields of records

A record is made with the names of its fields as they are written, and the last field of a name
stays. A member of it is looked up by its wire name, as if it were a member of the row. So a field is
read back under its own name just if that is the name's wire name, which
`MemberName.wire_eq_self_iff` spells out, and otherwise another field is read, or none. A path of
members through records within records goes wrong at the first such name (`Expr.eval_follow`).
-/

namespace WikiRows

namespace Keyed

variable {α : Type}

theorem lookup_insert (key : String) (value : α) (l : List (String × α)) (k : String) :
    (insert key value l).lookup k = if key = k then some value else l.lookup k := by
  fun_induction insert key value l with
  | case1 => rw [lookup_cons]
  | case2 => rw [lookup_cons]
  | case3 v rest =>
    rw [lookup_cons, lookup_cons]
    split_ifs <;> rfl
  | case4 first v rest _ hne ih =>
    rw [lookup_cons, lookup_cons, ih]
    by_cases hk : first = k
    · simp [hk, hk ▸ hne]
    · simp [hk]

theorem lookup_ofList (pairs : List (String × α)) (key : String) :
    (ofList pairs).lookup key = pairs.reverse.lookup key := by
  induction pairs using List.reverseRecOn with
  | nil => rfl
  | append_singleton pairs pair ih =>
    rw [ofList_concat, lookup_insert, List.reverse_concat, lookup_cons, ih]

end Keyed

namespace MemberName

/-- A legal name that is a wire name already: in lower case, and none of the two that are renamed. -/
theorem wire_eq_self_iff {name : String} (h : isLegal name) :
    wire name = name ↔
      Text.asciiLower name = name ∧ name ≠ "value" ∧ name ≠ "defaultvalue" := by
  rcases wire_cases h with ⟨hlower, hwire⟩ | ⟨hlower, hwire⟩ | ⟨hvalue, hdefault, hwire⟩
  · rw [hwire, hlower]
    refine iff_of_false (fun heq => ?_) fun hplain => hplain.2.1 hplain.1.symm
    rw [← heq] at h
    exact absurd h (by decide)
  · rw [hwire, hlower]
    refine iff_of_false (fun heq => ?_) fun hplain => hplain.2.2 hplain.1.symm
    rw [← heq] at h
    exact absurd h (by decide)
  · rw [hwire]
    refine ⟨fun heq => ⟨heq, ?_, ?_⟩, fun hplain => hplain.1⟩
    · rwa [heq] at hvalue
    · rwa [heq] at hdefault

end MemberName

namespace Json

def follow (j : Json) (path : List String) : Json :=
  path.foldl (fun j name => (j.get? (MemberName.wire name)).getD .null) j

theorem follow_null (path : List String) : null.follow path = null := by
  induction path with
  | nil => rfl
  | cons name path ih => exact ih

end Json

namespace Expr

def lastField? (name : String) (fields : List (String × Expr)) : Option Expr :=
  fields.reverse.lookup name

def follow (e : Expr) (path : List String) : Expr := path.foldl member e

/-- The field at the end of a path through records within records, the last one of each name. -/
def fieldAt? : List String → Expr → Option Expr
  | [], e => some e
  | name :: path, record fields => (lastField? name fields).bind (fieldAt? path)
  | _ :: _, _ => none

theorem evalFields_eq_map (r : Row) (fields : List (String × Expr)) :
    evalFields r fields = fields.map fun field => (field.1, field.2.eval r) := by
  induction fields with
  | nil => rfl
  | cons field fields ih => rw [evalFields, ih, List.map_cons]

theorem eval_member_record (r : Row) (fields : List (String × Expr)) (name : String) :
    (member (record fields) name).eval r =
      ((lastField? (MemberName.wire name) fields).map (eval r)).getD .null := by
  have hget : ((record fields).eval r).get? (MemberName.wire name) =
      (lastField? (MemberName.wire name) fields).map (eval r) := by
    rw [eval, Json.get?, Keyed.lookup_ofList, evalFields_eq_map, ← List.map_reverse,
      Keyed.lookup_map, lastField?]
  rw [eval, hget]

theorem eval_follow (r : Row) (e : Expr) (path : List String) :
    (e.follow path).eval r = (e.eval r).follow path := by
  induction path generalizing e with
  | nil => rfl
  | cons name path ih =>
    change ((member e name).follow path).eval r = _
    rw [ih, eval]
    rfl

/-- Along names that are wire names already, a path reads the field to which it leads. -/
theorem eval_follow_of_fieldAt? {path : List String}
    (hpath : ∀ name ∈ path, MemberName.wire name = name) (r : Row) {e inner : Expr}
    (h : fieldAt? path e = some inner) : (e.follow path).eval r = inner.eval r := by
  induction path generalizing e with
  | nil =>
    obtain rfl := Option.some.inj h
    rfl
  | cons name path ih =>
    obtain ⟨hname, hrest⟩ := List.forall_mem_cons.mp hpath
    cases e with
    | record fields =>
      obtain ⟨field, hfield, hinner⟩ := Option.bind_eq_some_iff.mp h
      have hmember : (member (record fields) name).eval r = field.eval r := by
        rw [eval_member_record, hname, hfield]
        rfl
      change ((member (record fields) name).follow path).eval r = _
      rw [eval_follow, hmember, ← eval_follow]
      exact ih hrest hinner
    | row | member | const | not | binary | call => cases h

/-- Records within records, each with one field, along a path to an expression. -/
def nest (path : List String) (inner : Expr) : Expr :=
  path.foldr (fun name e => record [(name, e)]) inner

theorem fieldAt?_nest (path : List String) (inner : Expr) :
    fieldAt? path (nest path inner) = some inner := by
  induction path with
  | nil => rfl
  | cons name path ih =>
    change (lastField? name [(name, nest path inner)]).bind (fieldAt? path) = _
    rw [lastField?, List.reverse_singleton, Keyed.lookup_cons, if_pos rfl]
    exact ih

/-- What is nested along a path is lost as soon as one of the names is no wire name. -/
theorem wire_eq_of_eval_follow_nest {path : List String} {inner : Expr} {r : Row}
    (h : ((nest path inner).follow path).eval r = inner.eval r) (hinner : inner.eval r ≠ .null) :
    ∀ name ∈ path, MemberName.wire name = name := by
  induction path with
  | nil => simp
  | cons name path ih =>
    have hfollow : ((nest (name :: path) inner).follow (name :: path)).eval r =
        (((lastField? (MemberName.wire name) [(name, nest path inner)]).map (eval r)).getD
          .null).follow path := by
      change ((member (record [(name, nest path inner)]) name).follow path).eval r = _
      rw [eval_follow, eval_member_record]
    rw [hfollow, lastField?, List.reverse_singleton, Keyed.lookup_cons] at h
    by_cases hname : name = MemberName.wire name
    · rw [if_pos hname, Option.map_some, Option.getD_some, ← eval_follow] at h
      exact List.forall_mem_cons.mpr ⟨hname.symm, ih h⟩
    · rw [if_neg hname] at h
      exact absurd ((Json.follow_null path).symm.trans h).symm hinner

/-- A member of a record is the last field of its wire name, and null without one. So a path of legal
names gives what its fields give, whatever the records and the row are, just if every name is in lower
case and is neither `value` nor `defaultvalue`. -/
theorem record_fields_read_iff (path : List String)
    (hlegal : ∀ name ∈ path, MemberName.isLegal name) :
    (∀ (r : Row) (fields : List (String × Expr)) (name : String),
      (member (record fields) name).eval r =
        ((lastField? (MemberName.wire name) fields).map (eval r)).getD .null) ∧
    ((∀ (r : Row) (e inner : Expr), fieldAt? path e = some inner →
        (e.follow path).eval r = inner.eval r) ↔
      ∀ name ∈ path, Text.asciiLower name = name ∧ name ≠ "value" ∧ name ≠ "defaultvalue") := by
  refine ⟨eval_member_record, ?_⟩
  have hplain : (∀ name ∈ path, Text.asciiLower name = name ∧ name ≠ "value" ∧
      name ≠ "defaultvalue") ↔ ∀ name ∈ path, MemberName.wire name = name :=
    forall₂_congr fun name hname => (MemberName.wire_eq_self_iff (hlegal name hname)).symm
  rw [hplain]
  constructor
  · intro h
    have hnest := h [] (nest path (const (.bool true))) _ (fieldAt?_nest path _)
    exact wire_eq_of_eval_follow_nest hnest (by simp [eval, Literal.value])
  · intro hpath r e inner hinner
    exact eval_follow_of_fieldAt? hpath r hinner

/-- The last of two fields of a record, which is a record itself. -/
theorem record_fields_read_nested :
    let inner : Expr := .call .upper [.member .row "Title"]
    let e : Expr := .record [("a", .const (.int 1)), ("b_2", .row),
      ("a", .record [("c", .const .null), ("b_2", inner), ("B_2", .row)])]
    (∀ name ∈ ["a", "b_2"], MemberName.isLegal name) ∧
    (∀ name ∈ ["a", "b_2"],
      Text.asciiLower name = name ∧ name ≠ "value" ∧ name ≠ "defaultvalue") ∧
    fieldAt? ["a", "b_2"] e = some inner ∧
    ∀ r : Row, (member (member e "a") "b_2").eval r = inner.eval r := by
  intro inner e
  have hlegal : ∀ name ∈ ["a", "b_2"], MemberName.isLegal name := by decide
  have hplain : ∀ name ∈ ["a", "b_2"],
      Text.asciiLower name = name ∧ name ≠ "value" ∧ name ≠ "defaultvalue" := by decide
  have hfield : fieldAt? ["a", "b_2"] e = some inner := by rfl
  refine ⟨hlegal, hplain, hfield, fun r => ?_⟩
  exact (record_fields_read_iff _ hlegal).2.mpr hplain r e inner hfield

/-- A field with a capital in its name is not found again, nor is one called `value`, and beside a
field in lower case it is that one that is read. -/
theorem capital_field_unread :
    let a : Expr := .const (.str "a")
    let b : Expr := .const (.str "b")
    (MemberName.isLegal "Title" ∧ MemberName.isLegal "value") ∧
    (a.eval [] = .str "a" ∧ b.eval [] = .str "b") ∧
    (member (record [("Title", a)]) "Title").eval [] = .null ∧
    (member (record [("value", a)]) "value").eval [] = .null ∧
    (member (record [("title", b), ("Title", a)]) "Title").eval [] = .str "b" ∧
    ¬ ∀ (r : Row) (fields : List (String × Expr)) (name : String) (field : Expr),
      MemberName.isLegal name → lastField? name fields = some field →
        (member (record fields) name).eval r = field.eval r := by
  intro a b
  have ha : a.eval [] = .str "a" := by simp [a, eval, Literal.value]
  have hb : b.eval [] = .str "b" := by simp [b, eval, Literal.value]
  have hnone : (member (record [("Title", a)]) "Title").eval [] = .null := by
    rw [eval_member_record]
    rfl
  have hvalue : (member (record [("value", a)]) "value").eval [] = .null := by
    rw [eval_member_record]
    rfl
  have hother : (member (record [("title", b), ("Title", a)]) "Title").eval [] = .str "b" := by
    rw [eval_member_record, ← hb]
    rfl
  refine ⟨by decide, ⟨ha, hb⟩, hnone, hvalue, hother, fun h => ?_⟩
  have hread := h [] [("Title", a)] "Title" a (by decide) (by rfl)
  rw [hnone, ha] at hread
  cases hread

end Expr

end WikiRows
