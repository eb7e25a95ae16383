import Mathlib
import WikiRows.Schema.Basic

/-!
# What the check of a list looks at

A property of a strict type takes a list just if it takes each item, so that the leaves of a literal
decide, however deep they stand. The other types take any list without a look at its items, even at
those that they would refuse, of which null is the only one: `Property.check_elementwise_iff` says
when that makes a difference.
-/

namespace WikiRows

namespace Literal

def IsLeaf (v : Literal) : Prop := ∀ items, v ≠ list items

mutual

/-- The literals within a literal that are no lists, from left to right. -/
def leaves : Literal → List Literal
  | list items => itemsLeaves items
  | v => [v]

def itemsLeaves : List Literal → List Literal
  | [] => []
  | item :: items => leaves item ++ itemsLeaves items

end

theorem leaves_of_isLeaf {v : Literal} (h : v.IsLeaf) : v.leaves = [v] := by
  cases v with
  | list items => exact absurd rfl (h items)
  | _ => rfl

theorem leaves_list (items : List Literal) : (list items).leaves = items.flatMap leaves := by
  rw [leaves]
  induction items with
  | nil => rfl
  | cons item items ih => rw [itemsLeaves, ih, List.flatMap_cons]

/-- What holds of the leaves, and of a list if it holds of its items, holds of all literals. -/
@[elab_as_elim]
theorem induction_items {motive : Literal → Prop} (leaf : ∀ v, v.IsLeaf → motive v)
    (list : ∀ items, (∀ item ∈ items, motive item) → motive (.list items)) (v : Literal) :
    motive v := by
  match v with
  | .list items => exact list items fun item hitem => induction_items leaf list item
  | .null | .bool _ | .int _ | .float _ | .str _ | .date _ | .token _ =>
    exact leaf _ fun items h => by cases h
termination_by sizeOf v
decreasing_by
  have hlt := List.sizeOf_lt_of_mem hitem
  simp only [Literal.list.sizeOf_spec]
  omega

end Literal

/-- A type that takes some literals and not others: an enumeration, or one of the types with literals
of their own. -/
def WireType.isStrict : WireType → Bool
  | named name => Property.isLiteralType name
  | oneOf _ => true

namespace Property

variable {p : Property}

theorem checkItems_eq_ok_iff {items : List Literal} :
    p.checkItems items = .ok () ↔ ∀ item ∈ items, p.check item = .ok () := by
  induction items with
  | nil => simp [checkItems]
  | cons item items ih =>
    rw [checkItems, List.forall_mem_cons, ← ih]
    cases hitem : p.check item with
    | ok u => simp
    | error mismatch => simp

theorem check_null : p.check .null = .ok () ↔ p.nullable := by
  rw [check]
  split_ifs with h <;> simp [h]

theorem check_list_of_strict (h : p.type.isStrict) (items : List Literal) :
    p.check (.list items) = .ok () ↔ ∀ item ∈ items, p.check item = .ok () := by
  rw [← checkItems_eq_ok_iff, check]
  cases ht : p.type with
  | oneOf tokens => rfl
  | named name =>
    rw [ht] at h
    change isLiteralType name = true at h
    simp [h]

theorem check_of_not_strict (h : ¬ p.type.isStrict) (v : Literal) :
    p.check v = .ok () ↔ (v = .null → p.nullable) := by
  cases ht : p.type with
  | oneOf tokens => simp [ht, WireType.isStrict] at h
  | named name =>
    have hname : isLiteralType name = false := by simpa [ht, WireType.isStrict] using h
    cases v with
    | null => simp [check_null]
    | list items => simp [check, ht, hname]
    | bool | int | float | str | date | token => simp [check, ht, hname]

theorem check_of_strict (h : p.type.isStrict) (v : Literal) :
    p.check v = .ok () ↔ ∀ leaf ∈ v.leaves, p.check leaf = .ok () := by
  induction v using Literal.induction_items with
  | leaf v hv => simp [Literal.leaves_of_isLeaf hv]
  | list items ih =>
    rw [check_list_of_strict h, Literal.leaves_list, List.forall_mem_flatMap]
    exact forall₂_congr ih

/-- Of several literals a type that is not strict takes all, unless null is one of them and may not be. -/
theorem forall_check_of_not_strict (h : ¬ p.type.isStrict) (vs : List Literal) :
    (∀ v ∈ vs, p.check v = .ok ()) ↔ p.nullable ∨ .null ∉ vs := by
  simp only [check_of_not_strict h]
  constructor
  · intro hvs
    by_cases hnull : .null ∈ vs
    · exact .inl (hvs .null hnull rfl)
    · exact .inr hnull
  · rintro (hnull | hnull) v hv rfl
    · exact hnull
    · exact absurd hv hnull

/-- Whether a list is checked item by item. -/
theorem check_list_iff_items (items : List Literal) :
    (p.check (.list items) = .ok () ↔ ∀ item ∈ items, p.check item = .ok ()) ↔
      p.type.isStrict ∨ p.nullable ∨ .null ∉ items := by
  by_cases hs : p.type.isStrict
  · exact iff_of_true (check_list_of_strict hs items) (.inl hs)
  · have hlist : p.check (.list items) = .ok () :=
      (check_of_not_strict hs _).mpr fun h => by cases h
    rw [forall_check_of_not_strict hs, or_iff_right hs]
    exact iff_true_left hlist

/-- Whether a literal is checked leaf by leaf. -/
theorem check_iff_leaves (v : Literal) :
    (p.check v = .ok () ↔ ∀ leaf ∈ v.leaves, p.check leaf = .ok ()) ↔
      p.type.isStrict ∨ p.nullable ∨ v = .null ∨ .null ∉ v.leaves := by
  by_cases hs : p.type.isStrict
  · exact iff_of_true (check_of_strict hs v) (.inl hs)
  · rw [forall_check_of_not_strict hs, or_iff_right hs]
    by_cases hv : v = .null
    · -- Null is its own leaf.
      subst hv
      simp [check_null, Literal.leaves]
    · have hok : p.check v = .ok () := (check_of_not_strict hs v).mpr fun h => absurd h hv
      rw [or_iff_right hv]
      exact iff_true_left hok

/-- A list is checked item by item and a literal leaf by leaf with strict types, where null is
allowed, and where no null stands in a list; and in no other case, as only strict types refuse a list
for a null within it. -/
theorem check_elementwise_iff (p : Property) :
    (∀ items, (p.check (.list items) = .ok () ↔ ∀ item ∈ items, p.check item = .ok ()) ↔
      p.type.isStrict ∨ p.nullable ∨ .null ∉ items) ∧
    (∀ v, (p.check v = .ok () ↔ ∀ leaf ∈ v.leaves, p.check leaf = .ok ()) ↔
      p.type.isStrict ∨ p.nullable ∨ v = .null ∨ .null ∉ v.leaves) ∧
    (p.nullable = false → ∀ items, .null ∈ (Literal.list items).leaves →
      (p.check (.list items) = .ok () ↔ ¬ p.type.isStrict)) := by
  refine ⟨check_list_iff_items, check_iff_leaves, fun hnull items hmem => ?_⟩
  constructor
  · intro hok hs
    have htaken := (check_of_strict hs (.list items)).mp hok .null hmem
    rw [check_null, hnull] at htaken
    cases htaken
  · intro hs
    exact (check_of_not_strict hs _).mpr fun h => by cases h

/-- A null two lists deep, which a property of an enumeration refuses and one of a text takes. -/
theorem check_elementwise_iff_nested :
    let kind : Property := ⟨"kind", .oneOf ["page", "file"], false⟩
    let title : Property := ⟨"title", .named "string", false⟩
    let items : List Literal := [.token "page", .list [.str "file", .null]]
    kind.nullable = false ∧ title.nullable = false ∧ .null ∈ (Literal.list items).leaves ∧
    kind.check (.list items) ≠ .ok () ∧ title.check (.list items) = .ok () := by
  intro kind title items
  have hmem : .null ∈ (Literal.list items).leaves := by
    simp [items, Literal.leaves, Literal.itemsLeaves]
  obtain ⟨-, -, hkind⟩ := check_elementwise_iff kind
  obtain ⟨-, -, htitle⟩ := check_elementwise_iff title
  have hstrict : kind.type.isStrict := by rfl
  have hfree : ¬ title.type.isStrict := by decide
  exact ⟨rfl, rfl, hmem, fun hok => (hkind rfl items hmem).mp hok hstrict,
    (htitle rfl items hmem).mpr hfree⟩

/-- A text that must not be null may be a list of null. -/
theorem check_list_overlooks_null :
    let title : Property := ⟨"title", .named "string", false⟩
    title.check (.list [.null]) = .ok () ∧ title.check .null = .error .null :=
  ⟨rfl, rfl⟩

end Property

end WikiRows
